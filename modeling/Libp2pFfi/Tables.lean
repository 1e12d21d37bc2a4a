import Mathlib.Data.Finset.Card
import Mathlib.Data.Finmap

/-!
# Finite tables

A table maps keys to values, each key at most once. It stands for a hash map
whose iteration order nothing may depend on: the laws below speak of lookups
and of the number of entries, never of positions. Insertion, removal and lookup
are those of `AList`; what is added is the pass that keeps, rewrites or drops
every entry, and the size of the result of each operation.
-/

universe u v

/-- A finite map from `K` to `V`. Distinctness of the keys is carried by the
value itself. -/
abbrev Table (K : Type u) (V : Type v) := AList (fun _ : K => V)

namespace Table

variable {K : Type u} {V : Type v}

/-- The number of entries. -/
def len (table : Table K V) : Nat := table.entries.length

/-- The entries as pairs, in some order. -/
def toList (table : Table K V) : List (K × V) := table.entries.map fun entry => (entry.1, entry.2)

/-- The entries a pass over one entry keeps, with the values it leaves behind. -/
def keepEntry (f : K → V → Option V) (entry : Sigma fun _ : K => V) :
    Option (Sigma fun _ : K => V) :=
  (f entry.1 entry.2).map (Sigma.mk entry.1)

theorem keys_keepEntry (f : K → V → Option V) (entries : List (Sigma fun _ : K => V)) :
    (entries.filterMap (keepEntry f)).keys.Sublist entries.keys := by
  induction entries with
  | nil => exact List.Sublist.refl _
  | cons entry rest inductionHypothesis =>
    cases kept : f entry.1 entry.2 with
    | none =>
      simp only [List.filterMap_cons, keepEntry, kept, Option.map_none, List.keys_cons]
      exact inductionHypothesis.cons _
    | some value =>
      simp only [List.filterMap_cons, keepEntry, kept, Option.map_some, List.keys_cons]
      exact inductionHypothesis.cons_cons _

/-- Visit every entry: `none` drops it, `some value` keeps its key with that
value. This is `retain` with a closure that may also change what it keeps. -/
def filterMap (f : K → V → Option V) (table : Table K V) : Table K V :=
  ⟨table.entries.filterMap (keepEntry f), (keys_keepEntry f table.entries).nodup table.nodupKeys⟩

/-- Keep the entries that satisfy the predicate, unchanged. -/
def retain (keep : K → V → Bool) (table : Table K V) : Table K V :=
  table.filterMap fun key value => if keep key value then some value else none

/-- The keys that have an entry. -/
def keySet (table : Table K V) : Finset K := ⟨table.keys, table.keys_nodup⟩

@[simp] theorem card_keySet (table : Table K V) : table.keySet.card = table.len := by
  simp [keySet, len, AList.keys, List.keys]

variable [DecidableEq K]

@[simp] theorem mem_keySet {table : Table K V} {key : K} :
    key ∈ table.keySet ↔ (table.lookup key).isSome = true :=
  AList.lookup_isSome.symm

/-- A pass acts on each key by itself. -/
@[simp] theorem lookup_filterMap (f : K → V → Option V) (table : Table K V) (key : K) :
    (table.filterMap f).lookup key = (table.lookup key).bind (f key) := by
  obtain ⟨entries, distinct⟩ := table
  simp only [AList.lookup, filterMap]
  induction entries with
  | nil => rfl
  | cons entry rest inductionHypothesis =>
    obtain ⟨first, value⟩ := entry
    have distinctRest : rest.NodupKeys := (List.nodupKeys_cons.mp distinct).2
    by_cases same : key = first
    · subst same
      cases kept : f key value with
      | none =>
        have absent : List.dlookup key rest = none :=
          List.dlookup_eq_none.mpr (List.nodupKeys_cons.mp distinct).1
        simp [keepEntry, kept, List.dlookup_cons_eq, inductionHypothesis distinctRest, absent]
      | some result => simp [keepEntry, kept, List.dlookup_cons_eq]
    · have skip (found : V) (others : List (Sigma fun _ : K => V)) :
          List.dlookup key (⟨first, found⟩ :: others) = List.dlookup key others :=
        List.dlookup_cons_ne others ⟨first, found⟩ same
      cases kept : f first value <;>
        simp [keepEntry, kept, skip, inductionHypothesis distinctRest]

@[simp] theorem lookup_retain (keep : K → V → Bool) (table : Table K V) (key : K) :
    (table.retain keep).lookup key = (table.lookup key).filter (keep key) := by
  cases found : table.lookup key <;> simp [retain, found, Option.filter]

/-- An entry of the list is what the lookup of its key answers. -/
theorem mem_toList {table : Table K V} {key : K} {value : V} :
    (key, value) ∈ table.toList ↔ table.lookup key = some value := by
  rw [← Option.mem_def, AList.mem_lookup_iff]
  simp only [toList, List.mem_map, Prod.mk.injEq]
  constructor
  · rintro ⟨⟨first, second⟩, member, rfl, rfl⟩
    exact member
  · intro member
    exact ⟨⟨key, value⟩, member, rfl, rfl⟩

/-- Both outcomes of an insertion in one equation. -/
theorem lookup_insert_if (table : Table K V) (key tested : K) (value : V) :
    (table.insert key value).lookup tested =
      if tested = key then some value else table.lookup tested := by
  by_cases same : tested = key
  · subst same
    simp
  · simp [same, AList.lookup_insert_ne]

/-- Both outcomes of a removal in one equation. -/
theorem lookup_erase_if (table : Table K V) (key tested : K) :
    (table.erase key).lookup tested = if tested = key then none else table.lookup tested := by
  by_cases same : tested = key
  · subst same
    simp
  · simp [same, AList.lookup_erase_ne]

/-- There is nothing to remove under a key that is not there. -/
theorem erase_absent {table : Table K V} {key : K} (absent : table.lookup key = none) :
    table.erase key = table := by
  have notKey : key ∉ table.keys := by
    rw [← AList.mem_keys, ← AList.lookup_isSome, absent]
    simp
  exact AList.ext (List.kerase_of_notMem_keys notKey)

theorem keySet_insert (table : Table K V) (key : K) (value : V) :
    keySet (table.insert key value) = insert key table.keySet := by
  ext tested
  rw [mem_keySet, lookup_insert_if, Finset.mem_insert, mem_keySet]
  by_cases same : tested = key
  · simp [same]
  · simp [same]

theorem keySet_erase (table : Table K V) (key : K) :
    keySet (table.erase key) = table.keySet.erase key := by
  ext tested
  rw [mem_keySet, lookup_erase_if, Finset.mem_erase, mem_keySet]
  by_cases same : tested = key
  · simp [same]
  · simp [same]

/-- Removing what was just inserted. -/
@[simp] theorem erase_insert (table : Table K V) (key : K) (value : V) :
    (table.insert key value).erase key = table.erase key := by
  rw [AList.ext_iff]
  simp [AList.erase, AList.insert]

/-- Change the value of a key that has one. This is a write through `get_mut`. -/
def adjust (table : Table K V) (key : K) (change : V → V) : Table K V :=
  match table.lookup key with
  | none => table
  | some value => table.insert key (change value)

theorem lookup_adjust (table : Table K V) (key tested : K) (change : V → V) :
    (table.adjust key change).lookup tested =
      if tested = key then (table.lookup tested).map change else table.lookup tested := by
  unfold adjust
  by_cases same : tested = key
  · subst same
    cases found : table.lookup tested <;> simp [found]
  · cases table.lookup key <;> simp [same, AList.lookup_insert_ne]

/-- An insertion adds an entry exactly for a key that was absent. -/
theorem len_insert (table : Table K V) (key : K) (value : V) :
    len (table.insert key value) = table.len + if key ∈ table then 0 else 1 := by
  have keys (tested : Table K V) : tested.len = tested.keys.length := by
    simp [len, AList.keys, List.keys]
  rw [keys, keys, AList.keys_insert, List.length_cons]
  by_cases present : key ∈ table
  · have inKeys : key ∈ table.keys := present
    have positive : 0 < table.keys.length := List.length_pos_of_mem inKeys
    rw [List.length_erase_of_mem inKeys, if_pos present]
    omega
  · have notInKeys : key ∉ table.keys := present
    rw [List.erase_of_not_mem notInKeys, if_neg present]

/-- A removal adds none. -/
theorem len_erase_le (table : Table K V) (key : K) : len (table.erase key) ≤ table.len :=
  (List.kerase_sublist key table.entries).length_le

/-- A table nothing is found in is empty. -/
theorem eq_empty {table : Table K V} (nothing : ∀ key value, table.lookup key ≠ some value) :
    table = ∅ := by
  rw [AList.ext_iff]
  cases entries : table.entries with
  | nil => rfl
  | cons entry rest =>
    have found : table.lookup entry.1 = some entry.2 :=
      Option.mem_def.mp (AList.mem_lookup_iff.mpr (entries ▸ List.mem_cons_self))
    exact absurd found (nothing entry.1 entry.2)

/-! Tables of debts: keys that are outstanding, each for someone. -/

/-- Exactly one key is outstanding for `debtor` if the flag is set, and none if
it is not. -/
def Owes (table : Table K V) (debtor : V) (flag : Bool) : Prop :=
  if flag then ∃! key, table.lookup key = some debtor else ∀ key, table.lookup key ≠ some debtor

/-- The flag says whether exactly one key is outstanding. -/
theorem Owes.iff_unique {table : Table K V} {debtor : V} {flag : Bool}
    (owes : table.Owes debtor flag) : flag = true ↔ ∃! key, table.lookup key = some debtor := by
  cases flag with
  | true => exact iff_of_true rfl owes
  | false =>
    refine iff_of_false (by simp) ?_
    rintro ⟨key, found, -⟩
    exact owes key found

theorem Owes.insert_own {table : Table K V} {debtor : V} {key : K}
    (owes : table.Owes debtor false) : Owes (table.insert key debtor) debtor true := by
  refine ⟨key, AList.lookup_insert _, fun other found => ?_⟩
  by_contra different
  exact owes other ((AList.lookup_insert_ne different).symm.trans found)

/-- A new debt of another does not count. -/
theorem Owes.insert_other {table : Table K V} {debtor other : V} {key : K} {flag : Bool}
    (owes : table.Owes debtor flag) (different : other ≠ debtor) (isNew : table.lookup key = none) :
    Owes (table.insert key other) debtor flag := by
  have same (tested : K) : (table.insert key other).lookup tested = some debtor ↔
      table.lookup tested = some debtor := by
    rw [lookup_insert_if]
    split
    · rename_i own
      rw [own, isNew]
      exact iff_of_false (fun found => different (Option.some.inj found)) (by simp)
    · rfl
  cases flag with
  | true => exact (existsUnique_congr fun tested => same tested).mpr owes
  | false => exact fun tested found => owes tested ((same tested).mp found)

theorem Owes.erase_own {table : Table K V} {debtor : V} {key : K} {flag : Bool}
    (owes : table.Owes debtor flag) (found : table.lookup key = some debtor) :
    Owes (table.erase key) debtor false := by
  intro other foundToo
  rw [lookup_erase_if] at foundToo
  split at foundToo
  · cases foundToo
  · rename_i different
    cases flag with
    | true => exact different (owes.unique foundToo found)
    | false => exact owes other foundToo

/-- A debt of another that is settled does not count. -/
theorem Owes.erase_other {table : Table K V} {debtor other : V} {key : K} {flag : Bool}
    (owes : table.Owes debtor flag) (different : other ≠ debtor)
    (found : table.lookup key = some other) : Owes (table.erase key) debtor flag := by
  have same (tested : K) : (table.erase key).lookup tested = some debtor ↔
      table.lookup tested = some debtor := by
    rw [lookup_erase_if]
    split
    · rename_i own
      rw [own, found]
      exact iff_of_false (by simp) fun foundToo => different (Option.some.inj foundToo)
    · rfl
  cases flag with
  | true => exact (existsUnique_congr fun tested => same tested).mpr owes
  | false => exact fun tested foundToo => owes tested ((same tested).mp foundToo)

/-! A table and an index of it. -/

section

variable {N : Type*} [DecidableEq N]

/-- `index` finds the keys of `table` by their names, and nothing else. -/
def Indexes (name : K → N) (index : Table N K) (table : Table K V) : Prop :=
  ∀ label key, index.lookup label = some key ↔ (table.lookup key).isSome = true ∧ label = name key

variable {name : K → N} {index : Table N K} {table : Table K V}

theorem Indexes.empty (name : K → N) : Indexes name ∅ (∅ : Table K V) := by
  intro label key
  simp

/-- A name shows whether its key is there. -/
theorem Indexes.lookup_name (indexes : Indexes name index table) (key : K) :
    index.lookup (name key) = some key ↔ (table.lookup key).isSome = true := by
  rw [indexes (name key) key]
  exact and_iff_left rfl

theorem Indexes.insert (injective : Function.Injective name) (indexes : Indexes name index table)
    (key : K) (value : V) : Indexes name (index.insert (name key) key) (table.insert key value) := by
  intro label other
  rw [lookup_insert_if, lookup_insert_if]
  by_cases own : label = name key
  · rw [if_pos own]
    constructor
    · intro found
      obtain rfl := Option.some.inj found
      exact ⟨by simp, own⟩
    · rintro ⟨-, named⟩
      rw [injective (own.symm.trans named)]
  · rw [if_neg own, indexes label other]
    by_cases same : other = key
    · subst same
      simp [own]
    · rw [if_neg same]

/-- A new value does not change the name of a key. -/
theorem Indexes.update (indexes : Indexes name index table) {key : K}
    (present : (table.lookup key).isSome = true) (value : V) :
    Indexes name index (table.insert key value) := by
  intro label other
  rw [indexes label other, lookup_insert_if]
  by_cases same : other = key
  · subst same
    simp [present]
  · rw [if_neg same]

theorem Indexes.erase (injective : Function.Injective name) (indexes : Indexes name index table)
    (key : K) : Indexes name (index.erase (name key)) (table.erase key) := by
  intro label other
  rw [lookup_erase_if, lookup_erase_if]
  by_cases own : label = name key
  · rw [if_pos own]
    refine iff_of_false (by simp) ?_
    rintro ⟨present, named⟩
    rw [if_pos (injective (named.symm.trans own))] at present
    cases present
  · rw [if_neg own, indexes label other]
    by_cases same : other = key
    · subst same
      simp [own]
    · rw [if_neg same]

end

/-! Notes on the owners of entries, which the entries vouch for. -/

section

variable {O W N : Type*} [DecidableEq O]

/-- Every note on an owner is what some entry of the owner's shows. -/
def Backed (shows : W → Option N) (entries : Table K (O × W)) (notes : Table O N) : Prop :=
  ∀ owner shown, notes.lookup owner = some shown →
    ∃ key item, entries.lookup key = some (owner, item) ∧ shows item = some shown

/-- Write down what an item shows of its owner, if it shows anything. -/
def jot (shows : W → Option N) (notes : Table O N) (owner : O) (item : W) : Table O N :=
  match shows item with
  | some shown => notes.insert owner shown
  | none => notes

variable {shows : W → Option N} {entries : Table K (O × W)} {notes : Table O N}

/-- A new entry vouches for what it shows, and the others for the rest. -/
theorem Backed.insert (backed : Backed shows entries notes) {key : K}
    (isNew : entries.lookup key = none) (owner : O) (item : W) :
    Backed shows (entries.insert key (owner, item)) (jot shows notes owner item) := by
  have older {other : O} {shown : N} (noted : notes.lookup other = some shown) :
      ∃ key' item', (entries.insert key (owner, item)).lookup key' = some (other, item') ∧
        shows item' = some shown := by
    obtain ⟨key', item', found, vouches⟩ := backed other shown noted
    refine ⟨key', item', ?_, vouches⟩
    have different : key' ≠ key := by
      rintro rfl
      cases isNew.symm.trans found
    rw [lookup_insert_if, if_neg different, found]
  intro other shown noted
  unfold jot at noted
  split at noted
  · rename_i seen vouches
    rw [lookup_insert_if] at noted
    split at noted
    · rename_i own
      obtain rfl := Option.some.inj noted
      subst own
      exact ⟨key, item, AList.lookup_insert _, vouches⟩
    · exact older noted
  · exact older noted

/-- With an owner's last entry the note on the owner goes. -/
theorem Backed.erase_last (backed : Backed shows entries notes) {key : K} {owner : O} {item : W}
    (owned : entries.lookup key = some (owner, item))
    (last : ∀ other item, (entries.erase key).lookup other ≠ some (owner, item)) :
    Backed shows (entries.erase key) (notes.erase owner) := by
  intro other shown noted
  rw [lookup_erase_if] at noted
  split at noted
  · cases noted
  · rename_i different
    obtain ⟨key', item', found, vouches⟩ := backed other shown noted
    refine ⟨key', item', ?_, vouches⟩
    have elsewhere : key' ≠ key := by
      rintro rfl
      exact different (Prod.mk.inj (Option.some.inj (found.symm.trans owned))).1
    rw [lookup_erase_if, if_neg elsewhere, found]

/-- When an entry goes and the notes stay, they are still vouched for exactly if
another entry of the owner's shows what is noted. -/
theorem Backed.erase_iff (backed : Backed shows entries notes) {key : K} {owner : O} {item : W}
    (owned : entries.lookup key = some (owner, item)) :
    Backed shows (entries.erase key) notes ↔
      ∀ shown, notes.lookup owner = some shown → ∃ other item, other ≠ key ∧
        entries.lookup other = some (owner, item) ∧ shows item = some shown := by
  constructor
  · intro still shown noted
    obtain ⟨other, item', found, vouches⟩ := still owner shown noted
    rw [lookup_erase_if] at found
    split at found
    · cases found
    · rename_i different
      exact ⟨other, item', different, found, vouches⟩
  · intro others other shown noted
    by_cases own : other = owner
    · subst own
      obtain ⟨key', item', different, found, vouches⟩ := others shown noted
      exact ⟨key', item', by rw [lookup_erase_if, if_neg different, found], vouches⟩
    · obtain ⟨key', item', found, vouches⟩ := backed other shown noted
      refine ⟨key', item', ?_, vouches⟩
      have elsewhere : key' ≠ key := by
        rintro rfl
        exact own (Prod.mk.inj (Option.some.inj (found.symm.trans owned))).1
      rw [lookup_erase_if, if_neg elsewhere, found]

end

omit [DecidableEq K] in
/-- A pass never adds an entry. -/
theorem len_filterMap_le (f : K → V → Option V) (table : Table K V) :
    (table.filterMap f).len ≤ table.len :=
  List.length_filterMap_le _ _

end Table
