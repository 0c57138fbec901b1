/-
`RuntimeConfig::apply`: the prefix-map diffs, the two change handlers and the loops over the diffs, on the data plane
of `DataPlane`.

`utils::PrefixMapDiff` and `utils::MapChange` are not among the sources (utils.rs is missing); they are modelled from
the spec's words: the diff holds an `Insert` for each key only in the new map, an `Update` for each key in both with
a new value, a `Delete` for each key only in the old map, each once, in an order the spec leaves open. `apply` is
stated for every order (`DiffOrder`).

Results:
- `foldl_diff`: applying the changes of a diff, in any of its orders, to the old map's lookups gives the new map's.
- `clean_apply`: without faults, `apply(Some(old), new)` on a data plane holding `old` succeeds, issues no failing
  operation, leaves the data plane holding `new`, and calls the purge once for each external prefix it updates or
  removes; `clean_apply_none` is the first apply on an empty data plane.
- `apply_quiescence`: whatever faults, every guarded operation of `apply` is issued inside a region, behind the
  raised flag and the sleep, and a lowered flag is lowered again when `apply` returns.
- `logs_apply`: whatever faults, `apply(Some(old), new)` names in its map operations and purges only prefixes whose
  entry differs between `old` and `new`; `run_apply_self`: over itself it does nothing.
-/
import Einat.DataPlane

namespace Einat.Apply

open Einat.Network Einat.Trie Einat.Builder Einat.DataPlane

/-! ## The diff -/

/-- Modelled from the spec: `utils::MapChange`, one event of a prefix-map diff -/
inductive MapChange (P V : Type) where
  | insert (k : P) (v : V)
  | update (k : P) (v : V)
  | delete (k : P)

section Diff

variable {P V : Type}

/-- the prefix a change is for -/
def MapChange.key : MapChange P V → P
  | .insert k _ | .update k _ | .delete k => k

/-- what the key maps to once the change is made -/
def MapChange.value : MapChange P V → Option V
  | .insert _ v | .update _ v => some v
  | .delete _ => none

variable [LinearOrder P] [DecidableEq V]

/-- Modelled from the spec: the change `Diff(old, new)` holds for key `k`, if any -/
def keyChange (old new : PrefixMap P V) (k : P) : Option (MapChange P V) :=
  match old.find? k, new.find? k with
  | none, some v => some (.insert k v)
  | some v', some v => if v' = v then none else some (.update k v)
  | some _, none => some (.delete k)
  | none, none => none

/-- Modelled from the spec: the changes of `Diff(old, new)`, for the keys of `new` in its order, then for the keys
of `old` missing from `new` -/
def prefixMapDiff (old new : PrefixMap P V) : List (MapChange P V) :=
  (new.entries.map Prod.fst ++ (old.entries.map Prod.fst).filter fun k => new.find? k = none).filterMap
    (keyChange old new)

end Diff

/-- Modelled from the spec: `utils::PrefixMapDiff`, which enumerates the changes of `prefixMapDiff`, each once, in
an order of its own -/
structure PrefixMapDiff (P V : Type) [LinearOrder P] [DecidableEq V] where
  diff : PrefixMap P V → PrefixMap P V → List (MapChange P V)
  perm : ∀ old new, (diff old new).Perm (prefixMapDiff old new)

/-- the orders in which `apply` meets the changes of its two diffs -/
structure DiffOrder (P : Type) [LinearOrder P] (n : ℕ) where
  dest : PrefixMapDiff P DestConfig
  external : PrefixMapDiff P (ExternalConfig n)

/-! ## Model -/

section Model

variable {P : Type} [IpNetwork P] {n : ℕ} (fault : Fault P n) (order : DiffOrder P n)

/-- `handle_dest_change` -/
def handleDestChange : MapChange P DestConfig → SkelM P n Unit
  | .insert k v | .update k v => issue fault (.destUpdate k v)
  | .delete k => issue fault (.destDelete k)

/-- `handle_external_change` -/
def handleExternalChange : MapChange P (ExternalConfig n) → SkelM P n Unit
  | .insert k v => issue fault (.externalUpdate k v .noExist)
  | .update k v => withSkelDeleting do
    removeBindingAndCtEntries fault (IpNetwork.ipAddr k)
    issue fault (.externalUpdate k v .exist)
  | .delete k => withSkelDeleting do
    issue fault (.externalDelete k)
    removeBindingAndCtEntries fault (IpNetwork.ipAddr k)

/-- `apply_external_addr`: the scalar takes the address of `external_addr` -/
def applyExternalAddr (self : RuntimeConfig P n) : SkelM P n Unit :=
  modify fun s => { s.record (.setExternalAddr (IpNetwork.ipAddr self.externalAddr)) with
    maps := { s.maps with externalAddr := IpNetwork.ipAddr self.externalAddr } }

/-- `RuntimeConfig::apply` -/
def apply (self : RuntimeConfig P n) : Option (RuntimeConfig P n) → SkelM P n Unit
  | some old => do
    (order.dest.diff old.destConfig self.destConfig).forM (handleDestChange fault)
    (order.external.diff old.externalConfig self.externalConfig).forM (handleExternalChange fault)
    if old.externalAddr ≠ self.externalAddr then applyExternalAddr self
  | none => do
    (self.destConfig.entries.map fun (k, v) => MapChange.insert k v).forM (handleDestChange fault)
    (self.externalConfig.entries.map fun (k, v) => MapChange.insert k v).forM (handleExternalChange fault)
    applyExternalAddr self

end Model

/-! ## What a diff does -/

section DiffSpec

variable {P V : Type} [LinearOrder P] [DecidableEq V] {old new : PrefixMap P V}

/-- whether a change is an `Insert` -/
def MapChange.isInsert : MapChange P V → Bool
  | .insert _ _ => true
  | _ => false

/-- the lookups once a change is made -/
def MapChange.applyTo (m : P → Option V) (c : MapChange P V) : P → Option V := Function.update m c.key c.value

theorem keyChange_spec {k : P} {c : MapChange P V} (h : keyChange old new k = some c) :
    c.key = k ∧ c.value = new.find? k ∧ c.isInsert = (old.find? k).isNone := by
  unfold keyChange at h
  cases ho : old.find? k <;> cases hn : new.find? k <;> simp only [ho, hn] at h
  · cases h
  · cases h; simp [MapChange.key, MapChange.value, MapChange.isInsert]
  · cases h; simp [MapChange.key, MapChange.value, MapChange.isInsert]
  · split_ifs at h; cases h; simp [MapChange.key, MapChange.value, MapChange.isInsert]

theorem keyChange_eq_none {k : P} : keyChange old new k = none ↔ old.find? k = new.find? k := by
  unfold keyChange
  cases ho : old.find? k <;> cases hn : new.find? k <;> simp

theorem mem_prefixMapDiff {c : MapChange P V} : c ∈ prefixMapDiff old new ↔ keyChange old new c.key = some c := by
  unfold prefixMapDiff
  rw [List.mem_filterMap]
  refine ⟨fun ⟨k, _, hk⟩ => (keyChange_spec hk).1 ▸ hk, fun h => ⟨c.key, ?_, h⟩⟩
  simp only [List.mem_append, List.mem_filter, PrefixMap.mem_keys_iff_isSome, decide_eq_true_eq]
  cases hn : new.find? c.key
  · refine .inr ⟨?_, rfl⟩
    cases ho : old.find? c.key
    · exact absurd h (by rw [keyChange_eq_none.2 (ho.trans hn.symm)]; simp)
    · rfl
  · exact .inl rfl

/-- a diff holds a change only for a key whose lookup it changes -/
theorem find?_ne_of_mem_prefixMapDiff {c : MapChange P V} (hc : c ∈ prefixMapDiff old new) :
    old.find? c.key ≠ new.find? c.key :=
  fun h => by simpa [keyChange_eq_none.2 h] using mem_prefixMapDiff.1 hc

theorem prefixMapDiff_self (m : PrefixMap P V) : prefixMapDiff m m = [] :=
  List.eq_nil_iff_forall_not_mem.2 fun _ hc => find?_ne_of_mem_prefixMapDiff hc rfl

theorem PrefixMapDiff.diff_self (d : PrefixMapDiff P V) (m : PrefixMap P V) : d.diff m m = [] :=
  ((d.perm m m).trans (.of_eq (prefixMapDiff_self m))).eq_nil

theorem nodup_keys_prefixMapDiff (old new : PrefixMap P V) : ((prefixMapDiff old new).map MapChange.key).Nodup := by
  have hks : (new.entries.map Prod.fst ++ (old.entries.map Prod.fst).filter fun k => new.find? k = none).Nodup := by
    refine new.sorted.nodup.append (old.sorted.nodup.filter _) fun k hk hk' => ?_
    rw [PrefixMap.mem_keys_iff_isSome] at hk
    simp only [List.mem_filter, decide_eq_true_eq] at hk'
    simp [hk'.2] at hk
  refine (List.Nodup.filterMap (fun k k' c h h' => ?_) hks).map_on fun c hc c' hc' h => ?_
  · exact (keyChange_spec h).1.symm.trans (keyChange_spec h').1
  · have h₁ := mem_prefixMapDiff.1 hc
    rw [h, mem_prefixMapDiff.1 hc'] at h₁
    exact (Option.some.inj h₁).symm

omit [DecidableEq V] in
theorem foldl_applyTo_of_forall_ne {l : List (MapChange P V)} {p : P} (h : ∀ c ∈ l, c.key ≠ p)
    (m : P → Option V) : l.foldl MapChange.applyTo m p = m p := by
  induction l generalizing m with
  | nil => rfl
  | cons c l ih =>
    rw [List.foldl_cons, ih (fun c' hc' => h c' (List.mem_cons_of_mem _ hc'))]
    exact Function.update_noteq (h c (List.mem_cons_self _ _)).symm _ _

omit [DecidableEq V] in
theorem foldl_applyTo_of_mem {l : List (MapChange P V)} (hl : (l.map MapChange.key).Nodup) {c : MapChange P V}
    (hc : c ∈ l) (m : P → Option V) : l.foldl MapChange.applyTo m c.key = c.value := by
  induction l generalizing m with
  | nil => cases hc
  | cons c' l ih =>
    rw [List.map_cons, List.nodup_cons] at hl
    rw [List.foldl_cons]
    rcases List.mem_cons.1 hc with rfl | hc
    · rw [foldl_applyTo_of_forall_ne (p := c.key) fun c' hc' h => hl.1 (h ▸ List.mem_map_of_mem _ hc')]
      exact Function.update_same _ _ _
    · exact ih hl.2 hc _

theorem isSome_of_mem_prefixMapDiff {c : MapChange P V} (hc : c ∈ prefixMapDiff old new) (hv : c.value = none) :
    (old.find? c.key).isSome := by
  have h := mem_prefixMapDiff.1 hc
  obtain ⟨-, hval, -⟩ := keyChange_spec h
  refine Option.isSome_iff_ne_none.2 fun ho => ?_
  rw [keyChange_eq_none.2 (ho.trans (hv ▸ hval))] at h
  cases h

theorem isNone_of_mem_prefixMapDiff {c : MapChange P V} (hc : c ∈ prefixMapDiff old new) :
    (old.find? c.key).isNone = c.isInsert :=
  (keyChange_spec (mem_prefixMapDiff.1 hc)).2.2.symm

/-- **Applying a diff**: the changes of `Diff(old, new)`, in any order, turn the old map's lookups into the new
map's. -/
theorem foldl_diff {l : List (MapChange P V)} (hl : l.Perm (prefixMapDiff old new)) :
    l.foldl MapChange.applyTo old.find? = new.find? := by
  have hnd : (l.map MapChange.key).Nodup := (hl.map _).nodup_iff.2 (nodup_keys_prefixMapDiff old new)
  funext p
  cases hk : keyChange old new p with
  | none =>
    rw [foldl_applyTo_of_forall_ne fun c hc hcp => ?_, keyChange_eq_none.1 hk]
    have := mem_prefixMapDiff.1 (hl.subset hc)
    rw [hcp, hk] at this
    cases this
  | some c =>
    obtain ⟨hkey, hval, -⟩ := keyChange_spec hk
    have hc : c ∈ l := hl.mem_iff.2 (mem_prefixMapDiff.2 (hkey ▸ hk))
    rw [← hkey, foldl_applyTo_of_mem hnd hc, hval, hkey]

/-- the first apply's inserts are the diff from the empty map -/
theorem inserts_eq_prefixMapDiff (m : PrefixMap P V) :
    m.entries.map (fun (k, v) => MapChange.insert k v) = prefixMapDiff PrefixMap.empty m := by
  simp only [prefixMapDiff, PrefixMap.entries_empty, List.map_nil, List.filter_nil, List.append_nil,
    List.filterMap_map]
  rw [← List.filterMap_eq_map]
  refine List.filterMap_congr fun e he => ?_
  simp [keyChange, (PrefixMap.find?_eq_some_iff m).2 he]

end DiffSpec

/-! ## `apply` without faults -/

section CleanApply

variable {P : Type} [IpNetwork P] {n : ℕ}

/-- the config maps holding a runtime config -/
def configMaps (cfg : RuntimeConfig P n) : ConfigMaps P n :=
  ⟨cfg.destConfig.find?, cfg.externalConfig.find?, IpNetwork.ipAddr cfg.externalAddr⟩

/-- the purge a change of `external_config` calls: none for an `Insert`, one for the prefix's address otherwise -/
def MapChange.purge {V : Type} (c : MapChange P V) : List IpAddr :=
  if c.isInsert then [] else [IpNetwork.ipAddr c.key]

theorem clean_handleDestChange (c : MapChange P DestConfig) :
    Clean (handleDestChange (noFault : Fault P n) c) (fun m => c.value = none → (m.destConfig c.key).isSome)
      (fun m => { m with destConfig := c.applyTo m.destConfig }) [] := by
  cases c with
  | insert k v | update k v =>
    exact (clean_issue (.destUpdate k v)).weaken (fun _ _ => rfl) (fun _ _ => rfl) rfl
  | delete k =>
    refine (clean_issue (.destDelete k)).weaken (fun m hm => ?_) (fun _ _ => rfl) rfl
    have hk : (m.destConfig k).isSome = true := hm rfl
    simp [ConfigMaps.check, Option.isSome_iff_ne_none.1 hk]

theorem clean_handleExternalChange (c : MapChange P (ExternalConfig n)) :
    Clean (handleExternalChange noFault c) (fun m => (m.externalConfig c.key).isNone = c.isInsert)
      (fun m => { m with externalConfig := c.applyTo m.externalConfig }) c.purge := by
  cases c with
  | insert k v =>
    refine (clean_issue (.externalUpdate k v .noExist)).weaken (fun m hm => ?_) (fun _ _ => rfl) rfl
    have hk : (m.externalConfig k).isNone = true := hm
    simp [ConfigMaps.check, Option.isNone_iff_eq_none.1 hk]
  | update k v =>
    refine (clean_withSkelDeleting (Clean.bind (clean_removeBindingAndCtEntries _ _)
      (fun _ => clean_issue (.externalUpdate k v .exist)) fun _ h => h)).weaken (fun m hm => ?_)
      (fun _ _ => rfl) rfl
    have hk : m.externalConfig k ≠ none := fun h => by simp [MapChange.key, MapChange.isInsert, h] at hm
    simp [ConfigMaps.check, hk]
  | delete k =>
    refine (clean_withSkelDeleting (Clean.bind (clean_issue (.externalDelete k))
      (fun _ => clean_removeBindingAndCtEntries _ fun _ => True) fun _ _ => trivial)).weaken (fun m hm => ?_)
      (fun _ _ => rfl) rfl
    have hk : m.externalConfig k ≠ none := fun h => by simp [MapChange.key, MapChange.isInsert, h] at hm
    simp [ConfigMaps.check, hk]

omit [IpNetwork P] in
/-- a loop over changes with distinct keys, each of which leaves the others' preconditions alone -/
theorem clean_forM {V : Type} {h : MapChange P V → SkelM P n Unit} {fits : ConfigMaps P n → MapChange P V → Prop}
    {step : ConfigMaps P n → MapChange P V → ConfigMaps P n} {calls : MapChange P V → List IpAddr}
    (hh : ∀ c, Clean (h c) (fits · c) (step · c) (calls c))
    (hkeep : ∀ m c c', c.key ≠ c'.key → fits m c' → fits (step m c) c') :
    ∀ {l : List (MapChange P V)}, (l.map MapChange.key).Nodup →
      Clean (l.forM h) (fun m => ∀ c ∈ l, fits m c) (fun m => l.foldl step m) (l.flatMap calls)
  | [], _ => clean_pure _ _
  | c :: l, hl => by
    rw [List.map_cons, List.nodup_cons] at hl
    have hc : Clean (h c) (fun m => ∀ c' ∈ c :: l, fits m c') (step · c) (calls c) :=
      (hh c).weaken (fun m hm => hm c (List.mem_cons_self _ _)) (fun _ _ => rfl) rfl
    refine (Clean.bind hc (fun _ => clean_forM hh hkeep hl.2) fun m hm c' hc' => ?_).weaken (fun _ h => h)
      (fun _ _ => rfl) (by simp)
    exact hkeep m c c' (fun h => hl.1 (h ▸ List.mem_map_of_mem _ hc')) (hm c' (List.mem_cons_of_mem _ hc'))

theorem foldl_destStep (l : List (MapChange P DestConfig)) (m : ConfigMaps P n) :
    l.foldl (fun m c => { m with destConfig := c.applyTo m.destConfig }) m =
      { m with destConfig := l.foldl MapChange.applyTo m.destConfig } := by
  induction l generalizing m with
  | nil => rfl
  | cons c l ih => exact ih _

theorem foldl_externalStep (l : List (MapChange P (ExternalConfig n))) (m : ConfigMaps P n) :
    l.foldl (fun m c => { m with externalConfig := c.applyTo m.externalConfig }) m =
      { m with externalConfig := l.foldl MapChange.applyTo m.externalConfig } := by
  induction l generalizing m with
  | nil => rfl
  | cons c l ih => exact ih _

/-- the two loops of `apply` over any orders of the diffs from `old` to `new`, then `k` -/
theorem clean_loops {oldD newD : PrefixMap P DestConfig} {oldE newE : PrefixMap P (ExternalConfig n)}
    {ld : List (MapChange P DestConfig)} {le : List (MapChange P (ExternalConfig n))}
    (hd : ld.Perm (prefixMapDiff oldD newD)) (he : le.Perm (prefixMapDiff oldE newE)) (a : IpAddr)
    {k : SkelM P n Unit} {post : ConfigMaps P n → ConfigMaps P n}
    (hk : Clean k (· = ⟨newD.find?, newE.find?, a⟩) post []) :
    Clean (ld.forM (handleDestChange noFault) >>= fun _ => le.forM (handleExternalChange noFault) >>= fun _ => k)
      (· = ⟨oldD.find?, oldE.find?, a⟩) (fun _ => post ⟨newD.find?, newE.find?, a⟩) (le.flatMap MapChange.purge) := by
  have loopD : Clean (ld.forM (handleDestChange noFault)) (· = ⟨oldD.find?, oldE.find?, a⟩)
      (fun _ => ⟨newD.find?, oldE.find?, a⟩) [] :=
    (clean_forM (clean_handleDestChange (n := n))
      (fun m c c' hk h hv => by simpa [MapChange.applyTo, Function.update_noteq (Ne.symm hk)] using h hv)
      ((hd.map MapChange.key).nodup_iff.2 (nodup_keys_prefixMapDiff _ _))).weaken
      (fun m hm c hc hv => hm ▸ isSome_of_mem_prefixMapDiff (hd.subset hc) hv)
      (fun m hm => by rw [foldl_destStep, hm, foldl_diff hd]) (by simp)
  have loopE : Clean (le.forM (handleExternalChange noFault)) (· = ⟨newD.find?, oldE.find?, a⟩)
      (fun _ => ⟨newD.find?, newE.find?, a⟩) (le.flatMap MapChange.purge) :=
    (clean_forM clean_handleExternalChange
      (fun m c c' hk h => by simpa [MapChange.applyTo, Function.update_noteq (Ne.symm hk)] using h)
      ((he.map MapChange.key).nodup_iff.2 (nodup_keys_prefixMapDiff _ _))).weaken
      (fun m hm c hc => hm ▸ isNone_of_mem_prefixMapDiff (he.subset hc))
      (fun m hm => by rw [foldl_externalStep, hm, foldl_diff he]) rfl
  exact (Clean.bind loopD (fun _ => Clean.bind loopE (fun _ => hk) fun _ _ => rfl) fun _ _ => rfl).weaken
    (fun _ h => h) (fun _ _ => rfl) (by simp)

theorem clean_applyExternalAddr (cfg : RuntimeConfig P n) (pre : ConfigMaps P n → Prop) :
    Clean (applyExternalAddr cfg) pre (fun m => { m with externalAddr := IpNetwork.ipAddr cfg.externalAddr }) [] :=
  fun s _ => ⟨(), _, rfl, rfl, [.setExternalAddr _], rfl, by simp [SkelEvent.failed], rfl⟩

/-- the scalar write at the end of `apply(Some(old), new)` -/
theorem clean_externalAddrIf (old new : RuntimeConfig P n) (m : ConfigMaps P n)
    (h : m.externalAddr = IpNetwork.ipAddr old.externalAddr) :
    Clean (if old.externalAddr ≠ new.externalAddr then applyExternalAddr new else pure ()) (· = m)
      (fun _ => { m with externalAddr := IpNetwork.ipAddr new.externalAddr }) [] := by
  split
  · exact (clean_applyExternalAddr new _).weaken (fun _ _ => trivial) (fun _ hm => by rw [hm]) rfl
  · next hne =>
    refine (clean_pure () _).weaken (fun _ _ => trivial) (fun _ hm => ?_) rfl
    rw [hm, ← not_not.1 hne, ← h]; rfl

/-- **`apply(Some(old), new)` without faults**: on a data plane holding `old` it succeeds, issues no failing
operation, leaves the data plane holding `new`, and calls the purge for the external prefixes it updates or
removes, in the diff's order. -/
theorem clean_apply (order : DiffOrder P n) (old new : RuntimeConfig P n) :
    Clean (apply noFault order new (some old)) (· = configMaps old) (fun _ => configMaps new)
      ((order.external.diff old.externalConfig new.externalConfig).flatMap MapChange.purge) := by
  unfold apply
  exact (clean_loops (order.dest.perm old.destConfig new.destConfig)
    (order.external.perm old.externalConfig new.externalConfig) (IpNetwork.ipAddr old.externalAddr)
    (clean_externalAddrIf old new _ rfl)).weaken (fun _ h => h) (fun _ _ => rfl) rfl

/-- the purges of a diff's changes are its `Update`s' and `Delete`s' keys, in the diff's order -/
theorem flatMap_purge {V : Type} (l : List (MapChange P V)) :
    l.flatMap MapChange.purge = ((l.filter fun c => !c.isInsert).map MapChange.key).map IpNetwork.ipAddr := by
  induction l with
  | nil => rfl
  | cons c l ih => cases c <;> simp [MapChange.purge, MapChange.isInsert, MapChange.key, ih]

/-- **The first apply without faults**: on empty config maps it succeeds, issues no failing operation, leaves the
data plane holding `new`, and purges nothing. -/
theorem clean_apply_none (order : DiffOrder P n) (new : RuntimeConfig P n) (a : IpAddr) :
    Clean (apply noFault order new none) (· = ⟨fun _ => none, fun _ => none, a⟩) (fun _ => configMaps new) [] := by
  have hempty : ∀ {V : Type}, (PrefixMap.empty : PrefixMap P V).find? = fun _ => none := funext fun _ => rfl
  refine (clean_loops (.of_eq (inserts_eq_prefixMapDiff _)) (.of_eq (inserts_eq_prefixMapDiff _)) a
    (clean_applyExternalAddr new _)).weaken (fun m hm => by rw [hm, hempty, hempty]) (fun _ _ => rfl) ?_
  simp [flatMap_purge, List.filter_map, Function.comp_def, MapChange.isInsert]

/-- up to order, the purges of a diff are one for each key of `old` that `new` changes or drops -/
theorem flatMap_purge_perm {old new : PrefixMap P (ExternalConfig n)} {l : List (MapChange P (ExternalConfig n))}
    (hl : l.Perm (prefixMapDiff old new)) :
    (l.flatMap MapChange.purge).Perm
      (((old.entries.map Prod.fst).filter fun k => new.find? k ≠ old.find? k).map IpNetwork.ipAddr) := by
  rw [flatMap_purge]
  refine List.Perm.map _ ((List.perm_ext_iff_of_nodup ?_ (old.sorted.nodup.filter _)).2 fun k => ?_)
  · exact ((hl.map MapChange.key).nodup_iff.2 (nodup_keys_prefixMapDiff _ _)).sublist
      ((List.filter_sublist _).map _)
  rw [List.mem_filter, PrefixMap.mem_keys_iff_isSome, decide_eq_true_eq]
  simp only [List.mem_map, List.mem_filter, Bool.not_eq_true']
  constructor
  · rintro ⟨c, ⟨hc, hins⟩, rfl⟩
    have hd := mem_prefixMapDiff.1 (hl.subset hc)
    obtain ⟨-, -, hins'⟩ := keyChange_spec hd
    refine ⟨by simpa [hins] using hins', fun h => ?_⟩
    rw [keyChange_eq_none.2 h.symm] at hd
    cases hd
  · rintro ⟨hsome, hne⟩
    obtain ⟨c, hc⟩ := Option.ne_none_iff_exists'.1 fun h => hne (keyChange_eq_none.1 h).symm
    obtain ⟨rfl, -, hins⟩ := keyChange_spec hc
    refine ⟨c, ⟨hl.mem_iff.2 (mem_prefixMapDiff.2 hc), ?_⟩, rfl⟩
    rw [hins]
    cases h : old.find? c.key <;> simp_all

end CleanApply

/-! ## `apply` and the flag, whatever faults -/

section ProtocolApply

variable {P : Type} [IpNetwork P] {n : ℕ} (fault : Fault P n)

theorem protocol_handleDestChange (c : MapChange P DestConfig) : Protocol (handleDestChange fault c) := by
  cases c <;> exact protocol_issue fault rfl

theorem protocol_handleExternalChange (c : MapChange P (ExternalConfig n)) :
    Protocol (handleExternalChange fault c) := by
  cases c with
  | insert k v => exact protocol_issue fault rfl
  | update k v =>
    exact protocol_withSkelDeleting
      (Inside.bind (inside_removeBindingAndCtEntries fault _) fun _ => inside_issue fault _)
  | delete k =>
    exact protocol_withSkelDeleting
      (Inside.bind (inside_issue fault _) fun _ => inside_removeBindingAndCtEntries fault _)

omit [IpNetwork P] in
theorem protocol_forM {α : Type} {h : α → SkelM P n Unit} (hh : ∀ c, Protocol (h c)) :
    ∀ l : List α, Protocol (l.forM h)
  | [] => protocol_pure _
  | c :: l => Protocol.bind (hh c) fun _ => protocol_forM hh l

theorem protocol_applyExternalAddr (cfg : RuntimeConfig P n) : Protocol (applyExternalAddr (n := n) cfg) :=
  ⟨fun _ _ => ⟨trivial, _, rfl, guarded_singleton fun _ _ _ h => by cases h⟩, fun _ hs => ⟨hs, _, rfl, trivial⟩⟩

/-- **`apply` and the quiescence flag**: whatever faults, every guarded operation `apply` issues is issued with the
flag at 1, after the raise and the sleep of its own `with_skel_deleting` region, and a flag at 0 when `apply` is
called is at 0 when it returns, with `Ok` or `Err`. -/
theorem apply_quiescence (order : DiffOrder P n) (new : RuntimeConfig P n) (old : Option (RuntimeConfig P n))
    (s : Skel P n) :
    (∃ evs, (stateOf ((apply fault order new old).run s)).log = s.log ++ evs ∧ Guarded evs) ∧
      (s.deletingMapEntries = 0 → (stateOf ((apply fault order new old).run s)).deletingMapEntries = 0) := by
  have h : Protocol (apply fault order new old) := by
    cases old with
    | some old =>
      refine Protocol.bind (protocol_forM (protocol_handleDestChange fault) _) fun _ =>
        Protocol.bind (protocol_forM (protocol_handleExternalChange fault) _) fun _ => ?_
      split
      exacts [protocol_applyExternalAddr new, protocol_pure ()]
    | none =>
      exact Protocol.bind (protocol_forM (protocol_handleDestChange fault) _) fun _ =>
        Protocol.bind (protocol_forM (protocol_handleExternalChange fault) _) fun _ => protocol_applyExternalAddr new
  exact ⟨(h.1 s trivial).2, fun hs => (h.2 s hs).1⟩

end ProtocolApply

/-! ## What a successful `apply` leaves of the binding and CT maps -/

section SweepApply

variable {P : Type} [IpNetwork P] {n : ℕ} (fault : Fault P n)

theorem sweeps_handleDestChange (c : MapChange P DestConfig) : Sweeps (handleDestChange fault c) := by
  cases c <;> exact sweeps_issue fault _ (fun _ => rfl) (fun _ => rfl)

theorem sweeps_handleExternalChange (c : MapChange P (ExternalConfig n)) :
    Sweeps (handleExternalChange fault c) := by
  cases c with
  | insert k v => exact sweeps_issue fault _ (fun _ => rfl) (fun _ => rfl)
  | update k v =>
    exact sweeps_withSkelDeleting (Sweeps.bind (sweeps_removeBindingAndCtEntries fault _) fun _ =>
      sweeps_issue fault _ (fun _ => rfl) (fun _ => rfl))
  | delete k =>
    exact sweeps_withSkelDeleting (Sweeps.bind (sweeps_issue fault _ (fun _ => rfl) (fun _ => rfl)) fun _ =>
      sweeps_removeBindingAndCtEntries fault _)

omit [IpNetwork P] in
theorem sweeps_forM {α : Type} {h : α → SkelM P n Unit} (hh : ∀ c, Sweeps (h c)) :
    ∀ l : List α, Sweeps (l.forM h)
  | [] => sweeps_pure _
  | c :: l => Sweeps.bind (hh c) fun _ => sweeps_forM hh l

theorem sweeps_applyExternalAddr (cfg : RuntimeConfig P n) : Sweeps (applyExternalAddr (n := n) cfg) :=
  sweeps_modify _ (fun _ => rfl) (fun _ => rfl) fun _ => ⟨[_], rfl, rfl⟩

theorem sweeps_apply (order : DiffOrder P n) (new : RuntimeConfig P n) (old : Option (RuntimeConfig P n)) :
    Sweeps (apply fault order new old) := by
  cases old with
  | some old =>
    refine Sweeps.bind (sweeps_forM (sweeps_handleDestChange fault) _) fun _ =>
      Sweeps.bind (sweeps_forM (sweeps_handleExternalChange fault) _) fun _ => ?_
    split
    exacts [sweeps_applyExternalAddr new, sweeps_pure ()]
  | none =>
    exact Sweeps.bind (sweeps_forM (sweeps_handleDestChange fault) _) fun _ =>
      Sweeps.bind (sweeps_forM (sweeps_handleExternalChange fault) _) fun _ => sweeps_applyExternalAddr new

end SweepApply

/-! ## What `apply` touches, whatever faults -/

section TouchApply

variable {P : Type} [IpNetwork P] {n : ℕ} (fault : Fault P n)

/-- an event that touches only the prefixes `D`: a map operation that names a key names one of `D`, a purge is for
the address of a prefix of `D`; flag writes, sleeps and scalar writes touch no prefix -/
def TouchesOnly (D : P → Prop) : SkelEvent P n → Prop
  | .mapOp op _ _ => ∀ k, op.key? = some k → D k
  | .removeBindingAndCtEntries externalAddr => ∃ k, D k ∧ externalAddr = IpNetwork.ipAddr k
  | _ => True

theorem TouchesOnly.mono {D D' : P → Prop} (hD : ∀ k, D k → D' k) :
    ∀ {e : SkelEvent P n}, TouchesOnly D e → TouchesOnly D' e
  | .mapOp _ _ _, h => fun k hk => hD k (h k hk)
  | .removeBindingAndCtEntries _, ⟨k, hk, ha⟩ => ⟨k, hD k hk, ha⟩
  | .setDeletingMapEntries _, _ | .sleep, _ | .setExternalAddr _, _ => trivial

theorem logs_handleDestChange {D : P → Prop} (c : MapChange P DestConfig) (hc : D c.key) :
    Logs (TouchesOnly D) (handleDestChange fault c) := by
  cases c <;> exact logs_issue fault _ fun _ _ _ hk => by cases hk; exact hc

theorem logs_handleExternalChange {D : P → Prop} (c : MapChange P (ExternalConfig n)) (hc : D c.key) :
    Logs (TouchesOnly D) (handleExternalChange fault c) := by
  have hpurge : Logs (TouchesOnly D) (removeBindingAndCtEntries fault (IpNetwork.ipAddr c.key)) :=
    logs_removeBindingAndCtEntries fault _ ⟨c.key, hc, rfl⟩ fun _ _ _ hop k hk => by rw [hop] at hk; cases hk
  have hop : ∀ op : MapOp P n, op.key? = some c.key → Logs (TouchesOnly D) (issue fault op) :=
    fun op hop => logs_issue fault op fun _ _ k hk => by rw [hop] at hk; cases hk; exact hc
  cases c with
  | insert k v => exact hop _ rfl
  | update k v => exact logs_withSkelDeleting (Logs.bind hpurge fun _ => hop _ rfl) (fun _ => trivial) trivial
  | delete k => exact logs_withSkelDeleting (Logs.bind (hop _ rfl) fun _ => hpurge) (fun _ => trivial) trivial

/-- **What `apply` touches**: whatever faults, `apply(Some(old), new)` issues config-map operations and purges only
for prefixes whose entry differs between `old` and `new`. -/
theorem logs_apply (order : DiffOrder P n) (old new : RuntimeConfig P n) :
    Logs (TouchesOnly fun k => old.destConfig.find? k ≠ new.destConfig.find? k ∨
      old.externalConfig.find? k ≠ new.externalConfig.find? k) (apply fault order new (some old)) := by
  refine Logs.bind (logs_forM fun c hc => logs_handleDestChange fault c (.inl ?_)) fun _ =>
    Logs.bind (logs_forM fun c hc => logs_handleExternalChange fault c (.inr ?_)) fun _ => ?_
  · exact find?_ne_of_mem_prefixMapDiff ((order.dest.perm _ _).subset hc)
  · exact find?_ne_of_mem_prefixMapDiff ((order.external.perm _ _).subset hc)
  · split
    · exact fun s _ => ⟨trivial, _, rfl, by simp [TouchesOnly]⟩
    · exact logs_pure ()

/-- applying a runtime config over itself does nothing at all, whatever faults: its diffs are empty and its
`external_addr` is unchanged -/
theorem run_apply_self (order : DiffOrder P n) (cfg : RuntimeConfig P n) (s : Skel P n) :
    (apply fault order cfg (some cfg)).run s = .ok () s := by
  simp only [apply, order.dest.diff_self, order.external.diff_self, ne_eq, not_true_eq_false, if_false]
  rfl

end TouchApply

end Einat.Apply
