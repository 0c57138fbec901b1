/-
`prefix_trie::PrefixMap` and `PrefixSet`, as the runtime configuration uses them.

A map is its list of entries in the trie's iteration order, at most one per prefix; the order is a linear order on
prefixes (`Network.IpNetwork`), so the entries are sorted strictly by key and a map is determined by its lookups
(`PrefixMap.ext`). `PrefixSet<P>` is `PrefixMap<P, ()>`, as in `prefix_trie`. The operations are those `init` uses:
`entry(k).or_default()` followed by an in-place update (`modify`), `remove`, `from_iter` and iteration (`entries`).
-/
import Mathlib.Data.List.Sort

namespace Einat.Trie

/-- `PrefixMap<P, V>`: the entries in iteration order, keys strictly increasing -/
structure PrefixMap (P V : Type) [LinearOrder P] where
  entries : List (P × V)
  sorted : (entries.map Prod.fst).Sorted (· < ·)

namespace PrefixMap

variable {P V : Type} [LinearOrder P]

/-- `PrefixMap::default()` -/
def empty : PrefixMap P V := ⟨[], List.sorted_nil⟩

/-- the value stored at `k` in a list of entries -/
def lookupEntry (k : P) : List (P × V) → Option V
  | [] => none
  | (k', v) :: t => if k' = k then some v else lookupEntry k t

/-- `PrefixMap::get`: the value at exactly `k` -/
def find? (m : PrefixMap P V) (k : P) : Option V := lookupEntry k m.entries

/-- insertion at the place the order gives, replacing an entry of the same key -/
def insertEntry (k : P) (v : V) : List (P × V) → List (P × V)
  | [] => [(k, v)]
  | (k', v') :: t =>
    if k < k' then (k, v) :: (k', v') :: t
    else if k = k' then (k, v) :: t
    else (k', v') :: insertEntry k v t

theorem mem_keys_insertEntry {k x : P} {v : V} {l : List (P × V)} (h : x ∈ (insertEntry k v l).map Prod.fst) :
    x = k ∨ x ∈ l.map Prod.fst := by
  induction l with
  | nil => simpa [insertEntry] using h
  | cons e t ih =>
    simp only [insertEntry] at h
    split_ifs at h with h1 h2
    · simpa [or_left_comm] using h
    · subst h2; simpa using h
    · simp only [List.map_cons, List.mem_cons] at h ⊢
      rcases h with h | h
      · exact .inr (.inl h)
      · rcases ih h with h | h
        · exact .inl h
        · exact .inr (.inr h)

theorem sorted_insertEntry (k : P) (v : V) {l : List (P × V)} (h : (l.map Prod.fst).Sorted (· < ·)) :
    ((insertEntry k v l).map Prod.fst).Sorted (· < ·) := by
  induction l with
  | nil => exact List.sorted_singleton _
  | cons e t ih =>
    obtain ⟨k', v'⟩ := e
    have ht := List.sorted_cons.1 h
    simp only [insertEntry]
    split_ifs with h1 h2
    · exact List.sorted_cons.2 ⟨fun x hx => by
        rcases List.mem_cons.1 hx with rfl | hx
        · exact h1
        · exact h1.trans (ht.1 x hx), h⟩
    · subst h2; exact h
    · refine List.sorted_cons.2 ⟨fun x hx => ?_, ih ht.2⟩
      rcases mem_keys_insertEntry hx with rfl | hx
      · exact lt_of_le_of_ne (not_lt.1 h1) (Ne.symm h2)
      · exact ht.1 x hx

/-- `insert(k, v)` -/
def insert (m : PrefixMap P V) (k : P) (v : V) : PrefixMap P V :=
  ⟨insertEntry k v m.entries, sorted_insertEntry k v m.sorted⟩

/-- `entry(k).or_default()`, then `f` on the value in place -/
def modify [Inhabited V] (m : PrefixMap P V) (k : P) (f : V → V) : PrefixMap P V :=
  m.insert k (f ((m.find? k).getD default))

/-- `remove(k)` -/
def remove (m : PrefixMap P V) (k : P) : PrefixMap P V :=
  ⟨m.entries.filter (·.1 ≠ k), m.sorted.sublist ((List.filter_sublist _).map Prod.fst)⟩

/-- `PrefixSet::from_iter` -/
def fromIter (l : List P) : PrefixMap P Unit := l.foldl (fun s k => s.insert k ()) empty

/-! ## Lookups -/

theorem lookupEntry_insertEntry (k k' : P) (v : V) (l : List (P × V)) :
    lookupEntry k' (insertEntry k v l) = if k = k' then some v else lookupEntry k' l := by
  induction l with
  | nil => rfl
  | cons e t ih =>
    obtain ⟨k₀, v₀⟩ := e
    by_cases h1 : k < k₀
    · rw [insertEntry, if_pos h1]; rfl
    by_cases h2 : k = k₀
    · rw [insertEntry, if_neg h1, if_pos h2]
      subst h2
      by_cases h : k = k' <;> simp [lookupEntry, h]
    rw [insertEntry, if_neg h1, if_neg h2]
    simp only [lookupEntry, ih]
    by_cases ha : k₀ = k'
    · have hb : ¬ k = k' := fun hb => h2 (hb.trans ha.symm)
      simp [ha, hb]
    · simp [ha]

@[simp] theorem entries_empty : (empty : PrefixMap P V).entries = [] := rfl

@[simp] theorem find?_empty (k : P) : (empty : PrefixMap P V).find? k = none := rfl

@[simp] theorem find?_insert (m : PrefixMap P V) (k k' : P) (v : V) :
    (m.insert k v).find? k' = if k = k' then some v else m.find? k' :=
  lookupEntry_insertEntry k k' v m.entries

@[simp] theorem find?_modify [Inhabited V] (m : PrefixMap P V) (k k' : P) (f : V → V) :
    (m.modify k f).find? k' = if k = k' then some (f ((m.find? k).getD default)) else m.find? k' :=
  find?_insert _ _ _ _

theorem lookupEntry_filter (k k' : P) (l : List (P × V)) :
    lookupEntry k' (l.filter (·.1 ≠ k)) = if k = k' then none else lookupEntry k' l := by
  induction l with
  | nil => simp [lookupEntry]
  | cons e t ih =>
    obtain ⟨k₀, v₀⟩ := e
    by_cases h : k₀ = k
    · subst h
      rw [List.filter_cons_of_neg (by simp), ih]
      by_cases h' : k₀ = k' <;> simp [lookupEntry, h']
    · rw [List.filter_cons_of_pos (by simpa using h)]
      simp only [lookupEntry, ih]
      by_cases h' : k₀ = k'
      · subst h'; simp [Ne.symm h]
      · simp [h']

@[simp] theorem find?_remove (m : PrefixMap P V) (k k' : P) :
    (m.remove k).find? k' = if k = k' then none else m.find? k' :=
  lookupEntry_filter k k' m.entries

theorem find?_fromIter (l : List P) (k : P) : (fromIter l).find? k = if k ∈ l then some () else none := by
  suffices ∀ s : PrefixMap P Unit, (l.foldl (fun s k => s.insert k ()) s).find? k =
      if k ∈ l then some () else s.find? k from this _
  induction l with
  | nil => simp
  | cons a t ih =>
    intro s
    simp only [List.foldl_cons, ih, find?_insert, List.mem_cons]
    by_cases h : k ∈ t
    · simp [h]
    · by_cases h' : a = k
      · simp [h, h']
      · simp [h, h', Ne.symm h']

theorem lookupEntry_eq_some_iff {l : List (P × V)} (hn : (l.map Prod.fst).Nodup) {k : P} {v : V} :
    lookupEntry k l = some v ↔ (k, v) ∈ l := by
  induction l with
  | nil => simp [lookupEntry]
  | cons e t ih =>
    obtain ⟨k₀, v₀⟩ := e
    simp only [List.map_cons, List.nodup_cons] at hn
    simp only [lookupEntry, List.mem_cons, Prod.mk.injEq]
    split_ifs with h
    · subst h
      refine ⟨fun hv => .inl ⟨rfl, (Option.some.inj hv).symm⟩, ?_⟩
      rintro (⟨-, rfl⟩ | hm)
      · rfl
      · exact absurd (List.mem_map_of_mem Prod.fst hm) hn.1
    · rw [ih hn.2]
      exact ⟨.inr, fun h' => h'.resolve_left fun h'' => h h''.1.symm⟩

theorem find?_eq_some_iff (m : PrefixMap P V) {k : P} {v : V} : m.find? k = some v ↔ (k, v) ∈ m.entries :=
  lookupEntry_eq_some_iff m.sorted.nodup

theorem find?_foldl_remove (l : List P) (m : PrefixMap P V) (k : P) :
    (l.foldl (fun s a => s.remove a) m).find? k = if k ∈ l then none else m.find? k := by
  induction l generalizing m with
  | nil => simp
  | cons a t ih =>
    simp only [List.foldl_cons, ih, find?_remove, List.mem_cons]
    by_cases h : k ∈ t <;> by_cases h' : k = a <;> simp [h, h', Ne.symm]

@[simp]
theorem isSome_find?_fromIter (l : List P) (k : P) : ((fromIter l).find? k).isSome = decide (k ∈ l) := by
  by_cases h : k ∈ l <;> simp [find?_fromIter, h]

/-- `entry(k).or_default()` then an idempotent update, for each key of `l` in turn -/
theorem find?_foldl_modify [Inhabited V] (f : V → V) (hf : ∀ v, f (f v) = f v) (l : List P) (m : PrefixMap P V)
    (k : P) :
    (l.foldl (fun m a => m.modify a f) m).find? k = if k ∈ l then some (f ((m.find? k).getD default)) else m.find? k := by
  induction l generalizing m with
  | nil => simp
  | cons a t ih =>
    simp only [List.foldl_cons, ih, find?_modify, List.mem_cons]
    by_cases h : k ∈ t <;> by_cases h' : k = a
    · subst h'; simp [h, hf]
    · simp [h, h', Ne.symm h']
    · subst h'; simp [h]
    · simp [h, h', Ne.symm h']

/-- a map is determined by its lookups -/
theorem ext {m m' : PrefixMap P V} (h : ∀ k, m.find? k = m'.find? k) : m = m' := by
  obtain ⟨l, hl⟩ := m
  obtain ⟨l', hl'⟩ := m'
  have hs : ∀ {l : List (P × V)}, (l.map Prod.fst).Sorted (· < ·) → l.Sorted (fun a b => a.1 < b.1) :=
    fun h => List.pairwise_map.1 h
  have hn : ∀ {l : List (P × V)}, (l.map Prod.fst).Sorted (· < ·) → l.Nodup :=
    fun h => List.Nodup.of_map Prod.fst h.nodup
  have : IsAntisymm (P × V) (fun a b => a.1 < b.1) := ⟨fun a b h1 h2 => absurd (h1.trans h2) (lt_irrefl _)⟩
  have hp : l.Perm l' := (List.perm_ext_iff_of_nodup (hn hl) (hn hl')).2 fun ⟨k, v⟩ => by
    rw [← lookupEntry_eq_some_iff hl.nodup, ← lookupEntry_eq_some_iff hl'.nodup]
    exact Eq.congr_left (h k)
  simp only [mk.injEq]
  exact List.eq_of_perm_of_sorted hp (hs hl) (hs hl')

theorem mem_keys_iff_isSome (m : PrefixMap P V) (k : P) : k ∈ m.entries.map Prod.fst ↔ (m.find? k).isSome := by
  simp only [List.mem_map, Prod.exists, exists_and_right, exists_eq_right, Option.isSome_iff_exists,
    find?_eq_some_iff]

theorem mem_keys_iff (m : PrefixMap P Unit) (k : P) : k ∈ m.entries.map Prod.fst ↔ m.find? k = some () := by
  rw [find?_eq_some_iff]
  simp only [List.mem_map, Prod.exists, exists_and_right, exists_eq_right]
  exact ⟨fun ⟨u, hu⟩ => hu, fun h => ⟨(), h⟩⟩

end PrefixMap

end Einat.Trie
