/-
The data plane as `instance.rs` drives it, for one address family: the two config maps (`map_ipvX_dest_config`,
`map_ipvX_external_config`), the external-address scalar, the `g_deleting_map_entries` flag, and the binding and
connection-tracking maps the purge walks. The skeleton (`skel`) is generated code, not among the sources; its
objects keep the fields `instance.rs` reads and writes. A config map is keyed by prefix: its LPM key
(`with_lpm_key_bytes`) is the prefix's length and address, one key per prefix.

Every map operation is logged with the flag it was issued under and its outcome, and so are the flag writes, the
quiescence sleep, the purge calls and the scalar write. The kernel answers from the keys' presence (`EEXIST` for a
`NO_EXIST` update of a present key, `ENOENT` for an `EXIST` update or a delete of an absent one); any other failure
is decided by a `Fault` oracle from what was done before. The data plane's own activity on the binding and CT maps
is not modelled: within one call the control plane is their only actor, so a batch delete never meets a missing key.

Three ways to follow a program: `Clean` says what it does when no operation faults (its effect on the maps and
scalar, and the purge calls it makes); `Protocol` and `Inside` how it treats the flag whatever faults; `Logs` which
events it can log whatever faults. The last two rest on one statement, `Keeps`, of what a run keeps and logs.

Results:
- `clean_removeBindingAndCtEntries`: without faults the purge succeeds, touches neither config map nor the scalar,
  and logs its one call.
- `protocol_withSkelDeleting`: a region whose body keeps the flag raised logs its operations behind a raised flag
  and a sleep, and ends with the flag lowered, on success and on failure alike.
- `logs_removeBindingAndCtEntries`: whatever faults, the purge logs its call and operations that name no config-map
  key.
- `removeBindingAndCtEntries_clears`: a successful purge deletes exactly the binding entries of the address (by the
  value's `to_addr` for an outbound key, by the key's `from_addr` otherwise, under the address's family flag) and its
  CT entries, and passes each batch delete the keys it collected and their number.
-/
import Mathlib.Logic.Function.Basic
import Einat.Builder

namespace Einat.DataPlane

open Einat.Network Einat.Builder

/-! ## Data plane objects -/

/-- `libbpf_rs::MapFlags`, as `instance.rs` passes them -/
inductive MapFlags where
  | any
  | noExist
  | exist
deriving DecidableEq

/-- why a map operation failed: the key was there (`EEXIST`), it was not (`ENOENT`), or anything else -/
inductive MapError where
  | alreadyExists
  | notFound
  | other
deriving DecidableEq

/-- `skel::BindingFlags`, the bits the purge reads -/
structure BindingFlags where
  origDir : Bool
  addrIpv4 : Bool
  addrIpv6 : Bool
deriving DecidableEq

/-- `skel::MapBindingKey`, the fields the purge reads -/
structure MapBindingKey where
  flags : BindingFlags
  fromAddr : InetAddr
deriving DecidableEq

/-- `skel::MapBindingValue`, the fields the purge reads -/
structure MapBindingValue where
  flags : BindingFlags
  toAddr : InetAddr
deriving DecidableEq

/-- `skel::MapCtKey`, the fields the purge reads (`external.src_addr` as `srcAddr`) -/
structure MapCtKey where
  flags : BindingFlags
  srcAddr : InetAddr
deriving DecidableEq

/-- a map operation of the control plane -/
inductive MapOp (P : Type) (n : ℕ) where
  | destUpdate (k : P) (v : DestConfig)
  | destDelete (k : P)
  | externalUpdate (k : P) (v : ExternalConfig n) (flags : MapFlags)
  | externalDelete (k : P)
  | bindingLookup (key : MapBindingKey)
  | bindingDeleteBatch (keys : List MapBindingKey) (count : ℕ)
  | ctDeleteBatch (keys : List MapCtKey) (count : ℕ)

/-- what the control plane does to the data plane, in order -/
inductive SkelEvent (P : Type) (n : ℕ) where
  | setDeletingMapEntries (v : ℕ)
  | sleep
  | removeBindingAndCtEntries (externalAddr : IpAddr)
  | mapOp (op : MapOp P n) (deletingMapEntries : ℕ) (result : Option MapError)
  | setExternalAddr (addr : IpAddr)

/-- the objects a runtime config is written to: the two config maps, by key, and the external-address scalar -/
@[ext]
structure ConfigMaps (P : Type) (n : ℕ) where
  destConfig : P → Option DestConfig
  externalConfig : P → Option (ExternalConfig n)
  externalAddr : IpAddr

/-- the data plane objects of one family, and the log of what was done to them -/
structure Skel (P : Type) (n : ℕ) where
  maps : ConfigMaps P n
  deletingMapEntries : ℕ
  binding : List (MapBindingKey × MapBindingValue)
  ct : List MapCtKey
  log : List (SkelEvent P n)

/-- which operations fail for a reason of their own, given what was done before -/
def Fault (P : Type) (n : ℕ) := List (SkelEvent P n) → MapOp P n → Bool

/-- no operation faults -/
def noFault {P : Type} {n : ℕ} : Fault P n := fun _ _ => false

/-- the control plane's programs on the data plane: errors keep the state reached -/
abbrev SkelM (P : Type) (n : ℕ) := EStateM MapError (Skel P n)

/-! ## Model -/

section Model

variable {P : Type} [DecidableEq P] {n : ℕ}

/-- the kernel's answer from the keys' presence -/
def ConfigMaps.check (m : ConfigMaps P n) : MapOp P n → Option MapError
  | .destDelete k => if m.destConfig k = none then some .notFound else none
  | .externalUpdate k _ .noExist => if m.externalConfig k = none then none else some .alreadyExists
  | .externalUpdate k _ .exist => if m.externalConfig k = none then some .notFound else none
  | .externalDelete k => if m.externalConfig k = none then some .notFound else none
  | _ => none

/-- what a successful operation does to the config maps -/
def ConfigMaps.perform (m : ConfigMaps P n) : MapOp P n → ConfigMaps P n
  | .destUpdate k v => { m with destConfig := Function.update m.destConfig k (some v) }
  | .destDelete k => { m with destConfig := Function.update m.destConfig k none }
  | .externalUpdate k v _ => { m with externalConfig := Function.update m.externalConfig k (some v) }
  | .externalDelete k => { m with externalConfig := Function.update m.externalConfig k none }
  | _ => m

/-- what a successful operation does; a batch delete removes the first `count` keys it is given -/
def Skel.perform (s : Skel P n) : MapOp P n → Skel P n
  | .bindingDeleteBatch keys count => { s with binding := s.binding.filter fun e => e.1 ∉ keys.take count }
  | .ctDeleteBatch keys count => { s with ct := s.ct.filter fun key => key ∉ keys.take count }
  | op => { s with maps := s.maps.perform op }

/-- append an event to the log -/
def Skel.record (s : Skel P n) (e : SkelEvent P n) : Skel P n := { s with log := s.log ++ [e] }

variable (fault : Fault P n)

/-- issue one map operation -/
def issue (op : MapOp P n) : SkelM P n Unit := fun s =>
  let result := if fault s.log op then some .other else s.maps.check op
  let s' := s.record (.mapOp op s.deletingMapEntries result)
  match result with
  | none => .ok () (s'.perform op)
  | some e => .error e s'

/-- `map_binding.lookup(key, MapFlags::ANY)` -/
def lookupBinding (key : MapBindingKey) : SkelM P n (Option MapBindingValue) := do
  issue fault (.bindingLookup key)
  return (← get).binding.lookup key

/-- `skel.data_mut().g_deleting_map_entries = v` -/
def setDeletingMapEntries (v : ℕ) : SkelM P n Unit :=
  modify fun s => { s.record (.setDeletingMapEntries v) with deletingMapEntries := v }

/-- `std::thread::sleep`, which only the log sees -/
def sleep : SkelM P n Unit := modify (·.record .sleep)

/-- `with_skel_deleting`: raise the flag, wait, run `f`, lower the flag, and hand back `f`'s result -/
def withSkelDeleting {α : Type} (f : SkelM P n α) : SkelM P n α := do
  setDeletingMapEntries 1
  sleep
  let res ← tryCatch (Except.ok <$> f) fun e => pure (Except.error e)
  setDeletingMapEntries 0
  match res with
  | .ok a => pure a
  | .error e => throw e

/-- whether the purge deletes a binding entry: an original-direction key by its looked-up value, a reply key by
itself -/
def bindingToDelete (addrFlag : BindingFlags → Bool) (externalAddr : InetAddr) (bindingKey : MapBindingKey) :
    SkelM P n Bool :=
  if bindingKey.flags.origDir then do
    match ← lookupBinding fault bindingKey with
    | some bindingValue => pure (addrFlag bindingValue.flags && bindingValue.toAddr == externalAddr)
    | none => pure false
  else pure (addrFlag bindingKey.flags && bindingKey.fromAddr == externalAddr)

/-- the walk over `map_binding.keys()`, collecting `to_delete_binding_keys` -/
def collectBindingKeys (addrFlag : BindingFlags → Bool) (externalAddr : InetAddr) :
    List MapBindingKey → SkelM P n (List MapBindingKey)
  | [] => pure []
  | bindingKey :: bindingKeys => do
    let delete ← bindingToDelete fault addrFlag externalAddr bindingKey
    let rest ← collectBindingKeys addrFlag externalAddr bindingKeys
    pure (if delete then bindingKey :: rest else rest)

/-- the CT keys of an address -/
def ctKeysToDelete (addrFlag : BindingFlags → Bool) (externalAddr : InetAddr) (ct : List MapCtKey) :
    List MapCtKey :=
  ct.filter fun ctKey => addrFlag ctKey.flags && ctKey.srcAddr == externalAddr

/-- `remove_binding_and_ct_entries`; a batch's count `(len / size_of::<Key>()) as _` is the number of keys as a
`u32` -/
def removeBindingAndCtEntries (externalAddr : IpAddr) : SkelM P n Unit := do
  modify (·.record (.removeBindingAndCtEntries externalAddr))
  let addrFlag : BindingFlags → Bool := if externalAddr.isIpv4 then (·.addrIpv4) else (·.addrIpv6)
  let externalAddr := externalAddr.toInetAddr
  let toDeleteBindingKeys ← collectBindingKeys fault addrFlag externalAddr ((← get).binding.map Prod.fst)
  (if !toDeleteBindingKeys.isEmpty then
    issue fault (.bindingDeleteBatch toDeleteBindingKeys (toDeleteBindingKeys.length % 2 ^ 32)) else pure ())
  let toDeleteCtKeys := ctKeysToDelete addrFlag externalAddr (← get).ct
  if !toDeleteCtKeys.isEmpty then
    issue fault (.ctDeleteBatch toDeleteCtKeys (toDeleteCtKeys.length % 2 ^ 32))

end Model

/-! ## Runs -/

section Runs

variable {P : Type} {n : ℕ} {α β : Type}

/-- the state a run ends in, on success or on failure -/
def stateOf : EStateM.Result MapError (Skel P n) α → Skel P n
  | .ok _ s => s
  | .error _ s => s

/-- whether an event is a map operation that failed -/
def SkelEvent.failed : SkelEvent P n → Bool
  | .mapOp _ _ (some _) => true
  | _ => false

/-- the address a purge call is for -/
def SkelEvent.purgeCall : SkelEvent P n → Option IpAddr
  | .removeBindingAndCtEntries externalAddr => some externalAddr
  | _ => none

/-- whether an event writes the flag -/
def SkelEvent.writesFlag : SkelEvent P n → Bool
  | .setDeletingMapEntries _ => true
  | _ => false

/-- the config-map key an operation names; the binding and CT operations name none -/
def MapOp.key? : MapOp P n → Option P
  | .destUpdate k _ | .destDelete k | .externalUpdate k _ _ | .externalDelete k => some k
  | _ => none

/-- the operations that belong inside a `with_skel_deleting` region: an external update with `EXIST`, an external
delete, a batch delete -/
def MapOp.guarded : MapOp P n → Bool
  | .externalUpdate _ _ .exist | .externalDelete _ | .bindingDeleteBatch _ _ | .ctDeleteBatch _ _ => true
  | _ => false

theorem run_eq (x : SkelM P n α) (s : Skel P n) : x.run s = x s := rfl

theorem run_bind (x : SkelM P n α) (f : α → SkelM P n β) (s : Skel P n) :
    (x >>= f).run s = match x.run s with
      | .ok a s => (f a).run s
      | .error e s => .error e s := by
  show EStateM.bind x f s = _
  simp only [run_eq]
  unfold EStateM.bind
  cases x s <;> rfl

@[simp]
theorem run_pure (a : α) (s : Skel P n) : (pure a : SkelM P n α).run s = .ok a s := rfl

@[simp]
theorem run_get (s : Skel P n) : (get : SkelM P n (Skel P n)).run s = .ok s s := rfl

@[simp]
theorem run_modify (f : Skel P n → Skel P n) (s : Skel P n) : (modify f : SkelM P n Unit).run s = .ok () (f s) := rfl

@[simp]
theorem run_throw (e : MapError) (s : Skel P n) : (throw e : SkelM P n α).run s = .error e s := rfl

/-- catching `f`'s error as a value -/
theorem run_tryCatch (f : SkelM P n α) (s : Skel P n) :
    (tryCatch (Except.ok <$> f) fun e => pure (Except.error e) : SkelM P n (Except MapError α)).run s =
      match f.run s with
      | .ok a s => .ok (.ok a) s
      | .error e s => .ok (.error e) s := by
  show EStateM.tryCatch _ _ s = _
  simp only [run_eq]
  unfold EStateM.tryCatch
  cases h : f s <;> simp [Functor.map, EStateM.map, h]; rfl

theorem maps_perform [DecidableEq P] (s : Skel P n) (op : MapOp P n) : (s.perform op).maps = s.maps.perform op := by
  cases op <;> rfl

/-- the state a region's body starts from: the flag raised, then the sleep -/
def Skel.raised (s : Skel P n) : Skel P n :=
  { s.record (.setDeletingMapEntries 1) with deletingMapEntries := 1 }.record .sleep

/-- the state a region ends in: the flag lowered -/
def Skel.lowered (s : Skel P n) : Skel P n :=
  { s.record (.setDeletingMapEntries 0) with deletingMapEntries := 0 }

/-- `with_skel_deleting` runs its body between the raise and the sleep, and the lowering -/
theorem run_withSkelDeleting (f : SkelM P n α) (s : Skel P n) :
    (withSkelDeleting f).run s =
      match f.run s.raised with
      | .ok a s => .ok a s.lowered
      | .error e s => .error e s.lowered := by
  simp only [withSkelDeleting, setDeletingMapEntries, sleep, run_bind, run_modify, run_tryCatch, Skel.raised]
  cases f.run _ <;> rfl

theorem stateOf_withSkelDeleting (f : SkelM P n α) (s : Skel P n) :
    stateOf ((withSkelDeleting f).run s) = (stateOf (f.run s.raised)).lowered := by
  rw [run_withSkelDeleting]
  cases f.run _ <;> rfl

end Runs

/-! ## Runs without faults -/

section Clean

variable {P : Type} {n : ℕ} {α β : Type}

/-- without faults, from every state whose config maps satisfy `pre`, `x` succeeds, leaves the config maps as `post`
says, logs no failed operation, and calls the purge for `calls` -/
def Clean (x : SkelM P n α) (pre : ConfigMaps P n → Prop) (post : ConfigMaps P n → ConfigMaps P n)
    (calls : List IpAddr) : Prop :=
  ∀ s, pre s.maps → ∃ a s', x.run s = .ok a s' ∧ s'.maps = post s.maps ∧
    ∃ evs, s'.log = s.log ++ evs ∧ (∀ e ∈ evs, e.failed = false) ∧ evs.filterMap SkelEvent.purgeCall = calls

theorem Clean.bind {x : SkelM P n α} {f : α → SkelM P n β} {pre pre' : ConfigMaps P n → Prop}
    {post post' : ConfigMaps P n → ConfigMaps P n} {calls calls' : List IpAddr} (hx : Clean x pre post calls)
    (hf : ∀ a, Clean (f a) pre' post' calls') (hpre : ∀ m, pre m → pre' (post m)) :
    Clean (x >>= f) pre (post' ∘ post) (calls ++ calls') := by
  intro s hs
  obtain ⟨a, s₁, hrun₁, hmaps₁, evs₁, hlog₁, hok₁, hcalls₁⟩ := hx s hs
  obtain ⟨b, s₂, hrun₂, hmaps₂, evs₂, hlog₂, hok₂, hcalls₂⟩ := hf a s₁ (hmaps₁ ▸ hpre _ hs)
  refine ⟨b, s₂, by rw [run_bind, hrun₁]; exact hrun₂, by rw [hmaps₂, hmaps₁]; rfl, evs₁ ++ evs₂,
    by rw [hlog₂, hlog₁, List.append_assoc], ?_, by rw [List.filterMap_append, hcalls₁, hcalls₂]⟩
  simp only [List.mem_append]
  rintro e (he | he)
  exacts [hok₁ e he, hok₂ e he]

theorem Clean.weaken {x : SkelM P n α} {pre pre' : ConfigMaps P n → Prop}
    {post post' : ConfigMaps P n → ConfigMaps P n} {calls calls' : List IpAddr} (h : Clean x pre post calls)
    (hpre : ∀ m, pre' m → pre m) (hpost : ∀ m, pre' m → post m = post' m) (hcalls : calls = calls') :
    Clean x pre' post' calls' := fun s hs => by
  obtain ⟨a, s', hrun, hmaps, hrest⟩ := h s (hpre _ hs)
  exact ⟨a, s', hrun, hmaps.trans (hpost _ hs), hcalls ▸ hrest⟩

/-- a first step that touches no config map and calls no purge -/
theorem Clean.bind_left {x : SkelM P n α} {f : α → SkelM P n β} {pre : ConfigMaps P n → Prop}
    {post : ConfigMaps P n → ConfigMaps P n} {calls : List IpAddr} (hx : Clean x pre id [])
    (hf : ∀ a, Clean (f a) pre post calls) : Clean (x >>= f) pre post calls :=
  Clean.bind hx hf fun _ h => h

/-- a rest that touches no config map and calls no purge -/
theorem Clean.bind_right {x : SkelM P n α} {f : α → SkelM P n β} {pre : ConfigMaps P n → Prop}
    {post : ConfigMaps P n → ConfigMaps P n} {calls : List IpAddr} (hx : Clean x pre post calls)
    (hf : ∀ a, Clean (f a) (fun _ => True) id []) : Clean (x >>= f) pre post calls := by
  simpa using Clean.bind hx hf fun _ _ => trivial

theorem clean_pure (a : α) (pre : ConfigMaps P n → Prop) : Clean (pure a : SkelM P n α) pre id [] :=
  fun s _ => ⟨a, s, rfl, rfl, [], by simp, by simp, rfl⟩

/-- a step that only logs `evs`, none of them a failure or a purge call -/
theorem clean_modify {f : Skel P n → Skel P n} {evs : Skel P n → List (SkelEvent P n)}
    (hf : ∀ s, (f s).maps = s.maps ∧ (f s).log = s.log ++ evs s) (hok : ∀ s, ∀ e ∈ evs s, e.failed = false)
    (hcalls : ∀ s, (evs s).filterMap SkelEvent.purgeCall = []) (pre : ConfigMaps P n → Prop) :
    Clean (modify f : SkelM P n Unit) pre id [] :=
  fun s _ => ⟨(), f s, rfl, (hf s).1, evs s, (hf s).2, hok s, hcalls s⟩

variable [DecidableEq P]

theorem log_perform (s : Skel P n) (op : MapOp P n) : (s.perform op).log = s.log := by
  cases op <;> rfl

theorem clean_issue (op : MapOp P n) :
    Clean (issue noFault op) (fun m => m.check op = none) (·.perform op) [] := by
  intro s hs
  refine ⟨(), (s.record (.mapOp op s.deletingMapEntries none)).perform op,
    by simp [run_eq, issue, noFault, hs], maps_perform _ _, [.mapOp op s.deletingMapEntries none],
    by rw [log_perform]; rfl, by simp [SkelEvent.failed], rfl⟩

omit [DecidableEq P] in
/-- a region's raise, sleep and lowering leave the config maps alone and fail nothing -/
theorem clean_withSkelDeleting {f : SkelM P n α} {pre : ConfigMaps P n → Prop}
    {post : ConfigMaps P n → ConfigMaps P n} {calls : List IpAddr} (h : Clean f pre post calls) :
    Clean (withSkelDeleting f) pre post calls := by
  intro s hs
  obtain ⟨a, s', hrun, hmaps, evs, hlog, hok, hcalls⟩ := h s.raised hs
  refine ⟨a, s'.lowered, by rw [run_withSkelDeleting, hrun], hmaps,
    [.setDeletingMapEntries 1, .sleep] ++ evs ++ [.setDeletingMapEntries 0], ?_, ?_, ?_⟩
  · simp only [Skel.lowered, Skel.raised, Skel.record, hlog, List.append_assoc, List.cons_append, List.nil_append]
  · simp only [List.mem_append, List.mem_cons, List.mem_singleton, List.not_mem_nil, or_false]
    rintro e (((rfl | rfl) | he) | rfl)
    exacts [rfl, rfl, hok e he, rfl]
  · simp [List.filterMap_append, hcalls, SkelEvent.purgeCall]

omit [DecidableEq P] in
theorem clean_get (pre : ConfigMaps P n → Prop) : Clean (get : SkelM P n (Skel P n)) pre id [] :=
  fun s _ => ⟨s, s, rfl, rfl, [], by simp, by simp, rfl⟩

/-- an operation on neither config map -/
theorem clean_issue_other (op : MapOp P n) (hc : ∀ m : ConfigMaps P n, m.check op = none)
    (hp : ∀ m : ConfigMaps P n, m.perform op = m) (pre : ConfigMaps P n → Prop) :
    Clean (issue noFault op) pre id [] := fun s _ => by
  obtain ⟨a, s', hrun, hmaps, h⟩ := clean_issue op s (hc _)
  exact ⟨a, s', hrun, hmaps.trans (hp _), h⟩

theorem clean_bindingToDelete (addrFlag : BindingFlags → Bool) (externalAddr : InetAddr)
    (bindingKey : MapBindingKey) (pre : ConfigMaps P n → Prop) :
    Clean (bindingToDelete noFault addrFlag externalAddr bindingKey) pre id [] := by
  unfold bindingToDelete lookupBinding
  split
  · refine Clean.bind_left (Clean.bind_left (clean_issue_other (.bindingLookup bindingKey) (fun _ => rfl)
      (fun _ => rfl) pre) fun _ => Clean.bind_left (clean_get pre) fun _ => clean_pure _ pre) fun v => ?_
    cases v <;> exact clean_pure _ _
  · exact clean_pure _ _

theorem clean_collectBindingKeys (addrFlag : BindingFlags → Bool) (externalAddr : InetAddr)
    (bindingKeys : List MapBindingKey) (pre : ConfigMaps P n → Prop) :
    Clean (collectBindingKeys noFault addrFlag externalAddr bindingKeys) pre id [] := by
  induction bindingKeys with
  | nil => exact clean_pure _ _
  | cons bindingKey bindingKeys ih =>
    exact Clean.bind_left (clean_bindingToDelete _ _ _ _) fun _ => Clean.bind_left ih fun _ => clean_pure _ _

/-- **The purge without faults**: it succeeds, leaves the config maps and the scalar alone, and logs its one call. -/
theorem clean_removeBindingAndCtEntries (externalAddr : IpAddr) (pre : ConfigMaps P n → Prop) :
    Clean (removeBindingAndCtEntries noFault externalAddr) pre id [externalAddr] := by
  have batch : ∀ (c : Bool) (op : MapOp P n), (∀ m : ConfigMaps P n, m.check op = none) →
      (∀ m : ConfigMaps P n, m.perform op = m) →
      Clean (if c then issue noFault op else pure ()) (fun _ => True) id [] := by
    intro c op hc hp
    cases c
    · exact clean_pure _ _
    · exact clean_issue_other op hc hp _
  have call : Clean (modify (·.record (.removeBindingAndCtEntries externalAddr)) : SkelM P n Unit) pre id
      [externalAddr] := fun s _ =>
    ⟨(), s.record (.removeBindingAndCtEntries externalAddr), rfl, rfl, [.removeBindingAndCtEntries externalAddr], rfl,
      by simp [SkelEvent.failed], rfl⟩
  exact Clean.bind_right call fun _ => Clean.bind_left (clean_get _) fun _ =>
    Clean.bind_left (clean_collectBindingKeys _ _ _ _) fun keys =>
    Clean.bind_left (batch _ (.bindingDeleteBatch keys _) (fun _ => rfl) fun _ => rfl) fun _ =>
    Clean.bind_left (clean_get _) fun _ => batch _ (.ctDeleteBatch _ _) (fun _ => rfl) fun _ => rfl

end Clean

/-! ## The flag, whatever faults -/

section Flag

variable {P : Type} {n : ℕ} {α β : Type}

/-- from every state satisfying `I`, `x` ends in one satisfying `I`, on success and on failure, having logged events
satisfying `G` -/
def Keeps (I : Skel P n → Prop) (G : List (SkelEvent P n) → Prop) (x : SkelM P n α) : Prop :=
  ∀ s, I s → I (stateOf (x.run s)) ∧ ∃ evs, (stateOf (x.run s)).log = s.log ++ evs ∧ G evs

/-- events of a raised region: no flag write, and every map operation issued with the flag at 1 -/
def Raised (evs : List (SkelEvent P n)) : Prop :=
  ∀ e ∈ evs, e.writesFlag = false ∧ ∀ op d r, e = .mapOp op d r → d = 1

/-- every guarded operation is issued with the flag at 1, after the raise and the sleep that open its region, with
no flag write between -/
def Guarded (evs : List (SkelEvent P n)) : Prop :=
  ∀ pre op d r post, evs = pre ++ .mapOp op d r :: post → op.guarded = true →
    d = 1 ∧ ∃ before mid, pre = before ++ .setDeletingMapEntries 1 :: .sleep :: mid ∧ ∀ e ∈ mid, e.writesFlag = false

/-- `x` keeps a raised flag raised, and issues its operations under it -/
def Inside (x : SkelM P n α) : Prop := Keeps (·.deletingMapEntries = 1) Raised x

/-- `x` issues every guarded operation inside a region, and leaves a lowered flag lowered -/
def Protocol (x : SkelM P n α) : Prop :=
  Keeps (fun _ => True) Guarded x ∧ Keeps (·.deletingMapEntries = 0) (fun _ => True) x

theorem Keeps.bind {I : Skel P n → Prop} {G : List (SkelEvent P n) → Prop} {x : SkelM P n α}
    {f : α → SkelM P n β} (happ : ∀ a b, G a → G b → G (a ++ b)) (hx : Keeps I G x) (hf : ∀ a, Keeps I G (f a)) :
    Keeps I G (x >>= f) := by
  intro s hs
  obtain ⟨hI, evs, hlog, hG⟩ := hx s hs
  rw [run_bind]
  cases h : x.run s with
  | ok a s' =>
    simp only [h, stateOf] at hI hlog
    obtain ⟨hI', evs', hlog', hG'⟩ := hf a s' hI
    exact ⟨hI', evs ++ evs', by rw [hlog', hlog, List.append_assoc], happ _ _ hG hG'⟩
  | error e s' =>
    rw [h] at hI hlog
    exact ⟨hI, evs, hlog, hG⟩

theorem keeps_pure {I : Skel P n → Prop} {G : List (SkelEvent P n) → Prop} (hG : G []) (a : α) :
    Keeps I G (pure a : SkelM P n α) :=
  fun s hs => ⟨hs, [], by simp [stateOf], hG⟩

theorem keeps_get {I : Skel P n → Prop} {G : List (SkelEvent P n) → Prop} (hG : G []) :
    Keeps I G (get : SkelM P n (Skel P n)) :=
  fun s hs => ⟨hs, [], by simp [stateOf], hG⟩

/-- a step that only logs one event -/
theorem keeps_record {I : Skel P n → Prop} {G : List (SkelEvent P n) → Prop} (e : SkelEvent P n)
    (hI : ∀ s, I s → I (s.record e)) (hG : G [e]) : Keeps I G (modify (·.record e) : SkelM P n Unit) :=
  fun s hs => ⟨hI s hs, [e], rfl, hG⟩

/-- one event that is no guarded operation -/
theorem guarded_singleton {e : SkelEvent P n} (he : ∀ op d r, e = .mapOp op d r → op.guarded = false) :
    Guarded [e] := by
  intro pre op d r post h hop
  cases pre with
  | nil =>
    simp only [List.nil_append, List.cons.injEq] at h
    exact absurd (he op d r h.1 ▸ hop) Bool.false_ne_true
  | cons x pre => simp at h

theorem Raised.append {evs₁ evs₂ : List (SkelEvent P n)} (h₁ : Raised evs₁) (h₂ : Raised evs₂) :
    Raised (evs₁ ++ evs₂) := by
  intro e he
  rcases List.mem_append.1 he with he | he
  exacts [h₁ e he, h₂ e he]

theorem Guarded.append {evs₁ evs₂ : List (SkelEvent P n)} (h₁ : Guarded evs₁) (h₂ : Guarded evs₂) :
    Guarded (evs₁ ++ evs₂) := by
  intro pre op d r post h hop
  rcases List.append_eq_append_iff.1 h with ⟨a, rfl, h'⟩ | ⟨c, rfl, h'⟩
  · obtain ⟨hd, before, mid, rfl, hmid⟩ := h₂ a op d r post h' hop
    exact ⟨hd, evs₁ ++ before, mid, by simp, hmid⟩
  · cases c with
    | nil =>
      obtain ⟨-, before, mid, hpre, -⟩ := h₂ [] op d r post (by simpa using h'.symm) hop
      simp at hpre
    | cons y c =>
      obtain ⟨rfl, rfl⟩ := List.cons_eq_cons.1 h'
      exact h₁ pre op d r c (by simp) hop

variable [DecidableEq P] (fault : Fault P n)

theorem stateOf_issue (op : MapOp P n) (s : Skel P n) :
    ∃ r, (stateOf ((issue fault op).run s)).deletingMapEntries = s.deletingMapEntries ∧
      (stateOf ((issue fault op).run s)).log = s.log ++ [.mapOp op s.deletingMapEntries r] := by
  show ∃ r, (stateOf (issue fault op s)).deletingMapEntries = _ ∧ (stateOf (issue fault op s)).log = _
  unfold issue
  dsimp only
  generalize (if fault s.log op = true then some MapError.other else s.maps.check op) = r
  cases r
  · exact ⟨none, by cases op <;> rfl, log_perform _ _⟩
  · exact ⟨_, rfl, rfl⟩

theorem inside_issue (op : MapOp P n) : Inside (issue fault op) := by
  intro s hs
  obtain ⟨r, hflag, hlog⟩ := stateOf_issue fault op s
  refine ⟨hflag.trans hs, _, hlog, fun e he => ?_⟩
  rw [List.mem_singleton] at he
  subst he
  exact ⟨rfl, fun _ _ _ h => by cases h; exact hs⟩

omit [DecidableEq P] in
theorem Inside.bind {x : SkelM P n α} {f : α → SkelM P n β} (hx : Inside x) (hf : ∀ a, Inside (f a)) :
    Inside (x >>= f) :=
  Keeps.bind (fun _ _ => Raised.append) hx hf

omit [DecidableEq P] in
theorem inside_pure (a : α) : Inside (pure a : SkelM P n α) := keeps_pure (by simp [Raised]) a

omit [DecidableEq P] in
theorem inside_get : Inside (get : SkelM P n (Skel P n)) := keeps_get (by simp [Raised])

/-- a purge's lookups and batch deletes name no config-map key: whatever they keep and log, a purge keeps and logs
with its call -/
theorem keeps_bindingToDelete {I : Skel P n → Prop} {G : List (SkelEvent P n) → Prop}
    (happ : ∀ a b, G a → G b → G (a ++ b)) (hnil : G [])
    (hissue : ∀ op : MapOp P n, op.key? = none → Keeps I G (issue fault op)) (addrFlag : BindingFlags → Bool)
    (externalAddr : InetAddr) (bindingKey : MapBindingKey) :
    Keeps I G (bindingToDelete fault addrFlag externalAddr bindingKey) := by
  unfold bindingToDelete lookupBinding
  split
  · refine Keeps.bind happ (Keeps.bind happ (hissue _ rfl) fun _ =>
      Keeps.bind happ (keeps_get hnil) fun _ => keeps_pure hnil _) fun v => ?_
    cases v <;> exact keeps_pure hnil _
  · exact keeps_pure hnil _

theorem keeps_collectBindingKeys {I : Skel P n → Prop} {G : List (SkelEvent P n) → Prop}
    (happ : ∀ a b, G a → G b → G (a ++ b)) (hnil : G [])
    (hissue : ∀ op : MapOp P n, op.key? = none → Keeps I G (issue fault op)) (addrFlag : BindingFlags → Bool)
    (externalAddr : InetAddr) (bindingKeys : List MapBindingKey) :
    Keeps I G (collectBindingKeys fault addrFlag externalAddr bindingKeys) := by
  induction bindingKeys with
  | nil => exact keeps_pure hnil _
  | cons bindingKey bindingKeys ih =>
    exact Keeps.bind happ (keeps_bindingToDelete fault happ hnil hissue _ _ _) fun _ =>
      Keeps.bind happ ih fun _ => keeps_pure hnil _

theorem keeps_removeBindingAndCtEntries {I : Skel P n → Prop} {G : List (SkelEvent P n) → Prop}
    (happ : ∀ a b, G a → G b → G (a ++ b)) (hnil : G [])
    (hissue : ∀ op : MapOp P n, op.key? = none → Keeps I G (issue fault op)) (externalAddr : IpAddr)
    (hcall : Keeps I G (modify (·.record (.removeBindingAndCtEntries externalAddr)) : SkelM P n Unit)) :
    Keeps I G (removeBindingAndCtEntries fault externalAddr) := by
  have batch : ∀ (c : Bool) (op : MapOp P n), op.key? = none →
      Keeps I G (if c then issue fault op else pure ()) := by
    intro c op hop
    cases c
    exacts [keeps_pure hnil _, hissue op hop]
  exact Keeps.bind happ hcall fun _ => Keeps.bind happ (keeps_get hnil) fun _ =>
    Keeps.bind happ (keeps_collectBindingKeys fault happ hnil hissue _ _ _) fun _ =>
    Keeps.bind happ (batch _ _ rfl) fun _ => Keeps.bind happ (keeps_get hnil) fun _ => batch _ _ rfl

/-- the purge keeps a raised flag raised and issues everything under it -/
theorem inside_removeBindingAndCtEntries (externalAddr : IpAddr) :
    Inside (removeBindingAndCtEntries fault externalAddr) :=
  keeps_removeBindingAndCtEntries fault (fun _ _ => Raised.append) (by simp [Raised])
    (fun op _ => inside_issue fault op) externalAddr <| keeps_record _ (fun _ h => h) fun e he => by
      rw [List.mem_singleton] at he
      subst he
      exact ⟨rfl, fun _ _ _ h => by cases h⟩

omit [DecidableEq P] in
theorem Protocol.bind {x : SkelM P n α} {f : α → SkelM P n β} (hx : Protocol x) (hf : ∀ a, Protocol (f a)) :
    Protocol (x >>= f) :=
  ⟨Keeps.bind (fun _ _ => Guarded.append) hx.1 fun a => (hf a).1,
    Keeps.bind (fun _ _ _ _ => trivial) hx.2 fun a => (hf a).2⟩

omit [DecidableEq P] in
theorem protocol_pure (a : α) : Protocol (pure a : SkelM P n α) :=
  ⟨keeps_pure (fun _ _ _ _ _ h => by simp at h) a, keeps_pure trivial a⟩

omit [DecidableEq P] in
/-- a region opens with the raise and the sleep, so whatever its body issues under the raised flag is guarded -/
theorem guarded_region {evs : List (SkelEvent P n)} (h : Raised evs) :
    Guarded (.setDeletingMapEntries 1 :: .sleep :: evs) := by
  intro pre op d r post heq _
  rcases pre with _ | ⟨a, _ | ⟨b, mid⟩⟩
  · simp at heq
  · simp at heq
  · simp only [List.cons_append, List.cons.injEq] at heq
    obtain ⟨rfl, rfl, rfl⟩ := heq
    exact ⟨(h _ (by simp)).2 op d r rfl, [], mid, rfl, fun e he => (h e (by simp [he])).1⟩

omit [DecidableEq P] in
/-- a region logs the raise, the sleep, its body's events and the lowering -/
theorem log_withSkelDeleting {I : Skel P n → Prop} {G : List (SkelEvent P n) → Prop} {f : SkelM P n α}
    (h : Keeps I G f) (s : Skel P n) (hs : I s.raised) :
    ∃ evs, (stateOf ((withSkelDeleting f).run s)).log =
      s.log ++ (.setDeletingMapEntries 1 :: .sleep :: evs ++ [.setDeletingMapEntries 0]) ∧ G evs := by
  obtain ⟨-, evs, hlog, hG⟩ := h s.raised hs
  refine ⟨evs, ?_, hG⟩
  rw [stateOf_withSkelDeleting]
  simp only [Skel.lowered, Skel.raised, Skel.record, List.append_assoc, List.singleton_append] at hlog ⊢
  rw [hlog]
  simp

omit [DecidableEq P] in
/-- **`with_skel_deleting`**: a body that keeps the flag raised has every guarded operation behind the raise and
the sleep, and the flag is lowered when the region ends, on success and on failure alike. -/
theorem protocol_withSkelDeleting {f : SkelM P n α} (h : Inside f) : Protocol (withSkelDeleting f) := by
  refine ⟨fun s _ => ?_, fun s _ => ?_⟩ <;> obtain ⟨evs, hlog, hraised⟩ := log_withSkelDeleting h s rfl
  · exact ⟨trivial, _, hlog, Guarded.append (guarded_region hraised) (guarded_singleton fun _ _ _ h => by cases h)⟩
  · exact ⟨by rw [stateOf_withSkelDeleting]; rfl, _, hlog, trivial⟩

/-- an unguarded operation may run outside any region -/
theorem protocol_issue {op : MapOp P n} (hop : op.guarded = false) : Protocol (issue fault op) := by
  refine ⟨fun s _ => ?_, fun s hs => ?_⟩ <;> obtain ⟨r, hflag, hlog⟩ := stateOf_issue fault op s
  · exact ⟨trivial, _, hlog, guarded_singleton fun _ _ _ h => by cases h; exact hop⟩
  · exact ⟨hflag.trans hs, _, hlog, trivial⟩

end Flag

/-! ## What a program logs, whatever faults -/

section Logs

variable {P : Type} {n : ℕ} {α β : Type} {Q : SkelEvent P n → Prop}

/-- from every state, on success and on failure, every event `x` logs satisfies `Q` -/
def Logs (Q : SkelEvent P n → Prop) (x : SkelM P n α) : Prop :=
  Keeps (fun _ => True) (fun evs => ∀ e ∈ evs, Q e) x

theorem Logs.bind {x : SkelM P n α} {f : α → SkelM P n β} (hx : Logs Q x) (hf : ∀ a, Logs Q (f a)) :
    Logs Q (x >>= f) :=
  Keeps.bind (fun _ _ ha hb => List.forall_mem_append.2 ⟨ha, hb⟩) hx hf

theorem logs_pure (a : α) : Logs Q (pure a : SkelM P n α) := keeps_pure (by simp) a

theorem logs_forM {γ : Type} {h : γ → SkelM P n Unit} :
    ∀ {l : List γ}, (∀ c ∈ l, Logs Q (h c)) → Logs Q (l.forM h)
  | [], _ => logs_pure _
  | c :: _, hl => Logs.bind (hl c (List.mem_cons_self _ _)) fun _ =>
    logs_forM fun c' hc' => hl c' (List.mem_cons_of_mem _ hc')

/-- a region logs the flag writes, the sleep and its body's events -/
theorem logs_withSkelDeleting {f : SkelM P n α} (h : Logs Q f) (hflag : ∀ v, Q (.setDeletingMapEntries v))
    (hsleep : Q .sleep) : Logs Q (withSkelDeleting f) := fun s _ => by
  obtain ⟨evs, hlog, hQ⟩ := log_withSkelDeleting h s trivial
  refine ⟨trivial, _, hlog, fun e he => ?_⟩
  simp only [List.cons_append, List.mem_cons, List.mem_append, List.not_mem_nil, or_false] at he
  rcases he with rfl | rfl | he | rfl
  exacts [hflag 1, hsleep, hQ e he, hflag 0]

variable [DecidableEq P] (fault : Fault P n)

theorem logs_issue (op : MapOp P n) (h : ∀ d r, Q (.mapOp op d r)) : Logs Q (issue fault op) := fun s _ => by
  obtain ⟨r, -, hlog⟩ := stateOf_issue fault op s
  exact ⟨trivial, _, hlog, by simpa using h _ _⟩

/-- **The purge's events, whatever faults**: its call, and operations that name no config-map key. -/
theorem logs_removeBindingAndCtEntries (externalAddr : IpAddr) (hcall : Q (.removeBindingAndCtEntries externalAddr))
    (hop : ∀ op d r, op.key? = none → Q (.mapOp op d r)) :
    Logs Q (removeBindingAndCtEntries fault externalAddr) :=
  keeps_removeBindingAndCtEntries (G := fun evs => ∀ e ∈ evs, Q e) fault
    (fun _ _ ha hb => List.forall_mem_append.2 ⟨ha, hb⟩) (by simp)
    (fun op hk => logs_issue fault op fun d r => hop op d r hk) externalAddr
    (keeps_record _ (fun _ h => h) (by simpa using hcall))

end Logs

/-! ## The purge, when it succeeds -/

section Purge

variable {P : Type} [DecidableEq P] {n : ℕ} (fault : Fault P n)

/-- whether the purge deletes a binding key, read off the binding map: an original-direction key by the value stored
for it, a reply key by itself -/
def bindingDeleted (binding : List (MapBindingKey × MapBindingValue)) (addrFlag : BindingFlags → Bool)
    (externalAddr : InetAddr) (bindingKey : MapBindingKey) : Bool :=
  if bindingKey.flags.origDir then
    match binding.lookup bindingKey with
    | some bindingValue => addrFlag bindingValue.flags && bindingValue.toAddr == externalAddr
    | none => false
  else addrFlag bindingKey.flags && bindingKey.fromAddr == externalAddr

/-- the lookups the purge issues for `keys`, each with the flag as it is and succeeding -/
def lookupEvents (d : ℕ) (keys : List MapBindingKey) : List (SkelEvent P n) :=
  (keys.filter (·.flags.origDir)).map fun bindingKey => .mapOp (.bindingLookup bindingKey) d none

theorem perform_bindingLookup (s : Skel P n) (bindingKey : MapBindingKey) :
    s.perform (.bindingLookup bindingKey) = s := rfl

theorem run_issue_ok {op : MapOp P n} {s s' : Skel P n} {u : Unit} (h : (issue fault op).run s = .ok u s') :
    s' = (s.record (.mapOp op s.deletingMapEntries none)).perform op := by
  revert h
  show issue fault op s = _ → _
  unfold issue
  dsimp only
  generalize (if fault s.log op = true then some MapError.other else s.maps.check op) = r
  cases r
  · intro h
    injection h with _ h
    exact h.symm
  · intro h
    cases h

theorem run_bindingToDelete_ok {addrFlag : BindingFlags → Bool} {externalAddr : InetAddr}
    {bindingKey : MapBindingKey} {s s' : Skel P n} {b : Bool}
    (h : (bindingToDelete fault addrFlag externalAddr bindingKey).run s = .ok b s') :
    b = bindingDeleted s.binding addrFlag externalAddr bindingKey ∧
      s' = { s with log := s.log ++ lookupEvents s.deletingMapEntries [bindingKey] } := by
  unfold bindingToDelete lookupBinding at h
  unfold bindingDeleted lookupEvents
  split at h
  · next horig =>
    simp only [run_bind] at h
    cases hi : (issue fault (.bindingLookup bindingKey)).run s with
    | error e s₁ => simp [hi] at h
    | ok u s₁ =>
      obtain rfl := run_issue_ok fault hi
      simp only [hi, run_get, run_pure, perform_bindingLookup, Skel.record] at h
      cases hl : s.binding.lookup bindingKey <;> simp only [hl, run_pure, EStateM.Result.ok.injEq] at h <;>
        obtain ⟨rfl, rfl⟩ := h <;> simp [horig, hl, Skel.record]
  · next horig =>
    simp only [run_pure, EStateM.Result.ok.injEq] at h
    obtain ⟨rfl, rfl⟩ := h
    simp [horig]

theorem run_collectBindingKeys_ok {addrFlag : BindingFlags → Bool} {externalAddr : InetAddr} :
    ∀ {keys : List MapBindingKey} {s s' : Skel P n} {l : List MapBindingKey},
    (collectBindingKeys fault addrFlag externalAddr keys).run s = .ok l s' →
      l = keys.filter (bindingDeleted s.binding addrFlag externalAddr) ∧
        s' = { s with log := s.log ++ lookupEvents s.deletingMapEntries keys }
  | [], s, s', l, h => by
    simp only [collectBindingKeys, run_pure, EStateM.Result.ok.injEq] at h
    obtain ⟨rfl, rfl⟩ := h
    simp [lookupEvents]
  | k :: ks, s, s', l, h => by
    simp only [collectBindingKeys, run_bind] at h
    cases hb : (bindingToDelete fault addrFlag externalAddr k).run s with
    | error e s₁ => simp [hb] at h
    | ok b s₁ =>
      obtain ⟨rfl, rfl⟩ := run_bindingToDelete_ok fault hb
      simp only [hb] at h
      cases hr : (collectBindingKeys fault addrFlag externalAddr ks).run
          { s with log := s.log ++ lookupEvents s.deletingMapEntries [k] } with
      | error e s₂ => simp [hr] at h
      | ok rest s₂ =>
        obtain ⟨rfl, rfl⟩ := run_collectBindingKeys_ok hr
        simp only [hr, run_pure, EStateM.Result.ok.injEq] at h
        obtain ⟨rfl, rfl⟩ := h
        constructor
        · cases hd : bindingDeleted s.binding addrFlag externalAddr k <;> simp [List.filter_cons, hd]
        · cases horig : k.flags.origDir <;> simp [lookupEvents, List.filter_cons, horig]

theorem run_batch_ok {c : Bool} {op : MapOp P n} {s s' : Skel P n} {u : Unit}
    (h : (if c then issue fault op else pure ()).run s = .ok u s') :
    s' = if c then (s.record (.mapOp op s.deletingMapEntries none)).perform op else s := by
  cases c
  · injection h with _ h
    exact h.symm
  · exact run_issue_ok fault h

/-- the data plane after a successful purge: its call and lookups logged, then each batch delete, if any -/
theorem run_removeBindingAndCtEntries_ok {externalAddr : IpAddr} {s s' : Skel P n} {u : Unit}
    (h : (removeBindingAndCtEntries fault externalAddr).run s = .ok u s') :
    let addrFlag : BindingFlags → Bool := if externalAddr.isIpv4 then (·.addrIpv4) else (·.addrIpv6)
    let s₀ := s.record (.removeBindingAndCtEntries externalAddr)
    let keys := (s₀.binding.map Prod.fst).filter (bindingDeleted s₀.binding addrFlag externalAddr.toInetAddr)
    let s₁ : Skel P n := { s₀ with log := s₀.log ++ lookupEvents s₀.deletingMapEntries (s₀.binding.map Prod.fst) }
    let s₂ : Skel P n := if !keys.isEmpty then (s₁.record (.mapOp (.bindingDeleteBatch keys (keys.length % 2 ^ 32))
      s₁.deletingMapEntries none)).perform (.bindingDeleteBatch keys (keys.length % 2 ^ 32)) else s₁
    let ctKeys := ctKeysToDelete addrFlag externalAddr.toInetAddr s₂.ct
    s' = if !ctKeys.isEmpty then (s₂.record (.mapOp (.ctDeleteBatch ctKeys (ctKeys.length % 2 ^ 32))
      s₂.deletingMapEntries none)).perform (.ctDeleteBatch ctKeys (ctKeys.length % 2 ^ 32)) else s₂ := by
  unfold removeBindingAndCtEntries at h
  simp only [run_bind, run_modify, run_get] at h
  split at h
  · next l s₀ hc =>
    obtain ⟨rfl, rfl⟩ := run_collectBindingKeys_ok fault hc
    split at h
    · next u' s₃ hb =>
      obtain rfl := run_batch_ok fault hb
      exact run_batch_ok fault h
    · cases h
  · cases h

omit [DecidableEq P] in
@[simp] theorem record_binding (s : Skel P n) (e : SkelEvent P n) : (s.record e).binding = s.binding := rfl
omit [DecidableEq P] in
@[simp] theorem record_ct (s : Skel P n) (e : SkelEvent P n) : (s.record e).ct = s.ct := rfl
omit [DecidableEq P] in
@[simp] theorem record_maps (s : Skel P n) (e : SkelEvent P n) : (s.record e).maps = s.maps := rfl
omit [DecidableEq P] in
@[simp] theorem record_deletingMapEntries (s : Skel P n) (e : SkelEvent P n) :
    (s.record e).deletingMapEntries = s.deletingMapEntries := rfl
omit [DecidableEq P] in
@[simp] theorem record_log (s : Skel P n) (e : SkelEvent P n) : (s.record e).log = s.log ++ [e] := rfl

omit [DecidableEq P] in
/-- in a map with one entry per key, the lookup of an entry's key finds its value -/
theorem lookup_of_mem {binding : List (MapBindingKey × MapBindingValue)} (hkeys : (binding.map Prod.fst).Nodup)
    {e : MapBindingKey × MapBindingValue} (he : e ∈ binding) : binding.lookup e.1 = some e.2 := by
  induction binding with
  | nil => cases he
  | cons e' binding ih =>
    rw [List.map_cons, List.nodup_cons] at hkeys
    rcases List.mem_cons.1 he with rfl | he
    · exact List.lookup_cons_self
    · have hne : e.1 ≠ e'.1 := fun h => hkeys.1 (h ▸ List.mem_map_of_mem _ he)
      rw [List.lookup_cons, beq_eq_false_iff_ne.2 hne, ih hkeys.2 he]

omit [DecidableEq P] in
/-- in a map with one entry per key, an entry's key is among the keys of the entries satisfying `q` exactly when
the entry does -/
theorem mem_keys_filter_iff {binding : List (MapBindingKey × MapBindingValue)}
    (hkeys : (binding.map Prod.fst).Nodup) (q : MapBindingKey × MapBindingValue → Bool)
    {e : MapBindingKey × MapBindingValue} (he : e ∈ binding) :
    e.1 ∈ (binding.filter q).map Prod.fst ↔ q e = true := by
  refine ⟨fun h => ?_, fun h => List.mem_map_of_mem _ (List.mem_filter.2 ⟨he, h⟩)⟩
  obtain ⟨e', he', hk⟩ := List.mem_map.1 h
  obtain ⟨he'b, hq⟩ := List.mem_filter.1 he'
  have : e' = e := List.inj_on_of_nodup_map hkeys he'b he hk
  exact this ▸ hq

omit [DecidableEq P] in
/-- the walk collects the keys of the entries of the address, read off each entry's key and value -/
theorem filter_bindingDeleted {binding : List (MapBindingKey × MapBindingValue)}
    (hkeys : (binding.map Prod.fst).Nodup) (addrFlag : BindingFlags → Bool) (externalAddr : InetAddr) :
    (binding.map Prod.fst).filter (bindingDeleted binding addrFlag externalAddr) =
      (binding.filter fun e => if e.1.flags.origDir then addrFlag e.2.flags && e.2.toAddr == externalAddr
        else addrFlag e.1.flags && e.1.fromAddr == externalAddr).map Prod.fst := by
  rw [List.filter_map]
  congr 1
  refine List.filter_congr fun e he => ?_
  simp only [Function.comp, bindingDeleted]
  split <;> simp only [lookup_of_mem hkeys he]

omit [DecidableEq P] in
/-- deleting the keys of the entries satisfying `q` keeps the others -/
theorem filter_not_mem_keys {binding : List (MapBindingKey × MapBindingValue)}
    (hkeys : (binding.map Prod.fst).Nodup) (q : MapBindingKey × MapBindingValue → Bool) :
    binding.filter (fun e => e.1 ∉ (binding.filter q).map Prod.fst) = binding.filter fun e => !q e :=
  List.filter_congr fun e he => by simp only [mem_keys_filter_iff hkeys q he, decide_not, Bool.decide_eq_true]

/-- the binding batch of the purge, issued when there are keys, deletes them all -/
theorem bindingBatch_eq (t : Skel P n) {keys : List MapBindingKey} (hlen : keys.length < 2 ^ 32) :
    (if !keys.isEmpty then (t.record (.mapOp (.bindingDeleteBatch keys (keys.length % 2 ^ 32))
      t.deletingMapEntries none)).perform (.bindingDeleteBatch keys (keys.length % 2 ^ 32)) else t) =
      { t with binding := t.binding.filter (·.1 ∉ keys),
               log := t.log ++ if !keys.isEmpty then
                 [.mapOp (.bindingDeleteBatch keys keys.length) t.deletingMapEntries none] else [] } := by
  rw [Nat.mod_eq_of_lt hlen]
  cases keys <;> simp [Skel.perform, Skel.record]

/-- the CT batch of the purge, issued when there are keys, deletes them all -/
theorem ctBatch_eq (t : Skel P n) {keys : List MapCtKey} (hlen : keys.length < 2 ^ 32) :
    (if !keys.isEmpty then (t.record (.mapOp (.ctDeleteBatch keys (keys.length % 2 ^ 32))
      t.deletingMapEntries none)).perform (.ctDeleteBatch keys (keys.length % 2 ^ 32)) else t) =
      { t with ct := t.ct.filter (· ∉ keys),
               log := t.log ++ if !keys.isEmpty then
                 [.mapOp (.ctDeleteBatch keys keys.length) t.deletingMapEntries none] else [] } := by
  rw [Nat.mod_eq_of_lt hlen]
  cases keys <;> simp [Skel.perform, Skel.record]

omit [DecidableEq P] in
/-- deleting the CT keys of an address keeps the others -/
theorem filter_not_mem_ctKeysToDelete (addrFlag : BindingFlags → Bool) (externalAddr : InetAddr)
    (ct : List MapCtKey) :
    ct.filter (· ∉ ctKeysToDelete addrFlag externalAddr ct) =
      ct.filter fun ctKey => !(addrFlag ctKey.flags && ctKey.srcAddr == externalAddr) :=
  List.filter_congr fun ctKey hk => by
    simp only [ctKeysToDelete, List.mem_filter, hk, true_and, decide_not, Bool.decide_eq_true]

/-- **What a successful purge deletes.** On maps with one entry per key and fewer than `2 ^ 32` entries (a map's
`max_entries` is a `u32`), a successful `remove_binding_and_ct_entries` removes exactly the binding entries of the
address in either direction and its CT entries, keeps every other entry and the config maps, and passes each batch
delete the keys it collected and their number. -/
theorem removeBindingAndCtEntries_clears (externalAddr : IpAddr) (s s' : Skel P n)
    (hkeys : (s.binding.map Prod.fst).Nodup) (hbinding : s.binding.length < 2 ^ 32) (hct : s.ct.length < 2 ^ 32)
    (h : (removeBindingAndCtEntries fault externalAddr).run s = .ok () s') :
    let addrFlag : BindingFlags → Bool := if externalAddr.isIpv4 then (·.addrIpv4) else (·.addrIpv6)
    let purged (e : MapBindingKey × MapBindingValue) : Bool :=
      if e.1.flags.origDir then addrFlag e.2.flags && e.2.toAddr == externalAddr.toInetAddr
      else addrFlag e.1.flags && e.1.fromAddr == externalAddr.toInetAddr
    let purgedCt (ctKey : MapCtKey) : Bool := addrFlag ctKey.flags && ctKey.srcAddr == externalAddr.toInetAddr
    s'.binding = s.binding.filter (fun e => !purged e) ∧ s'.ct = s.ct.filter (fun ctKey => !purgedCt ctKey) ∧
      s'.maps = s.maps ∧ s'.deletingMapEntries = s.deletingMapEntries ∧
      ∃ evs, s'.log = s.log ++ evs ∧
        (∀ keys count d r, .mapOp (.bindingDeleteBatch keys count) d r ∈ evs →
          keys = (s.binding.filter purged).map Prod.fst ∧ count = keys.length) ∧
        (∀ keys count d r, .mapOp (.ctDeleteBatch keys count) d r ∈ evs →
          keys = s.ct.filter purgedCt ∧ count = keys.length) := by
  have hlen : ∀ f x, ((s.binding.map Prod.fst).filter (bindingDeleted s.binding f x)).length < 2 ^ 32 :=
    fun _ _ => ((List.filter_sublist _).length_le.trans_eq (List.length_map _ _)).trans_lt hbinding
  have hctlen : ∀ f x, (ctKeysToDelete f x s.ct).length < 2 ^ 32 :=
    fun _ _ => (List.filter_sublist _).length_le.trans_lt hct
  have hs := run_removeBindingAndCtEntries_ok fault h
  simp only [record_binding, record_ct, record_deletingMapEntries, record_log, bindingBatch_eq _ (hlen _ _)] at hs
  simp only [ctBatch_eq _ (hctlen _ _)] at hs
  subst hs
  intro addrFlag purged purgedCt
  rw [filter_bindingDeleted hkeys addrFlag]
  refine ⟨filter_not_mem_keys hkeys purged, filter_not_mem_ctKeysToDelete addrFlag _ s.ct, rfl, rfl, _,
    (List.append_assoc _ _ _).trans ((List.append_assoc _ _ _).trans (List.append_assoc _ _ _)),
    fun keys count d r hmem => ?_, fun keys count d r hmem => ?_⟩ <;>
  simp only [lookupEvents, List.mem_append, List.mem_singleton, List.mem_map, List.mem_ite_nil_right,
    SkelEvent.mapOp.injEq, MapOp.bindingDeleteBatch.injEq, MapOp.ctDeleteBatch.injEq, reduceCtorEq, false_and,
    and_false, exists_false, false_or, or_false] at hmem <;>
  obtain ⟨-, ⟨rfl, rfl⟩, -⟩ := hmem <;> exact ⟨rfl, rfl⟩

/-- the address `0.0.0.1` -/
def purgeAddr : IpAddr := .v4 1

/-- an outbound binding to `purgeAddr`, an inbound one from it, an IPv6 one with the same bytes, and CT entries of
both families -/
def purgeSkel : Skel Unit 4 where
  maps := ⟨fun _ => none, fun _ => none, purgeAddr⟩
  deletingMapEntries := 0
  binding :=
    [(⟨⟨true, true, false⟩, ⟨0⟩⟩, ⟨⟨false, true, false⟩, purgeAddr.toInetAddr⟩),
      (⟨⟨false, true, false⟩, purgeAddr.toInetAddr⟩, ⟨⟨true, true, false⟩, ⟨0⟩⟩),
      (⟨⟨false, false, true⟩, purgeAddr.toInetAddr⟩, ⟨⟨true, false, true⟩, ⟨0⟩⟩)]
  ct := [⟨⟨false, true, false⟩, purgeAddr.toInetAddr⟩, ⟨⟨false, false, true⟩, purgeAddr.toInetAddr⟩]
  log := []

theorem removeBindingAndCtEntries_clears_purgeSkel :
    ((purgeSkel.binding.map Prod.fst).Nodup ∧ purgeSkel.binding.length < 2 ^ 32 ∧ purgeSkel.ct.length < 2 ^ 32 ∧
      (removeBindingAndCtEntries noFault purgeAddr).run purgeSkel =
        .ok () (stateOf ((removeBindingAndCtEntries noFault purgeAddr).run purgeSkel))) ∧
      (stateOf ((removeBindingAndCtEntries noFault purgeAddr).run purgeSkel)).binding = purgeSkel.binding.drop 2 ∧
      (stateOf ((removeBindingAndCtEntries noFault purgeAddr).run purgeSkel)).ct = purgeSkel.ct.drop 1 :=
  have h := removeBindingAndCtEntries_clears noFault purgeAddr purgeSkel _ (by decide) (by decide) (by decide) rfl
  ⟨⟨by decide, by decide, by decide, rfl⟩, h.1.trans (by decide), h.2.1.trans (by decide)⟩

end Purge

/-! ## What successful runs leave of the binding and CT maps -/

section Sweeps

variable {P : Type} {n : ℕ} {α β : Type}

/-- whether a purge of `externalAddr` deletes a binding entry: an outbound entry by its value's `to_addr`, any other
by its key's `from_addr`, under the address's family flag -/
def bindingPurged (externalAddr : IpAddr) (e : MapBindingKey × MapBindingValue) : Bool :=
  let addrFlag : BindingFlags → Bool := if externalAddr.isIpv4 then (·.addrIpv4) else (·.addrIpv6)
  if e.1.flags.origDir then addrFlag e.2.flags && e.2.toAddr == externalAddr.toInetAddr
  else addrFlag e.1.flags && e.1.fromAddr == externalAddr.toInetAddr

/-- whether a purge of `externalAddr` deletes a CT entry: by its source address, under the address's family flag -/
def ctPurged (externalAddr : IpAddr) (ctKey : MapCtKey) : Bool :=
  let addrFlag : BindingFlags → Bool := if externalAddr.isIpv4 then (·.addrIpv4) else (·.addrIpv6)
  addrFlag ctKey.flags && ctKey.srcAddr == externalAddr.toInetAddr

/-- the binding entries that purges of `calls` leave -/
def sweepBinding (calls : List IpAddr) (binding : List (MapBindingKey × MapBindingValue)) :
    List (MapBindingKey × MapBindingValue) :=
  binding.filter fun e => calls.all fun a => !bindingPurged a e

/-- the CT entries that purges of `calls` leave -/
def sweepCt (calls : List IpAddr) (ct : List MapCtKey) : List MapCtKey :=
  ct.filter fun ctKey => calls.all fun a => !ctPurged a ctKey

@[simp] theorem sweepBinding_nil (binding : List (MapBindingKey × MapBindingValue)) :
    sweepBinding [] binding = binding := List.filter_true _

@[simp] theorem sweepCt_nil (ct : List MapCtKey) : sweepCt [] ct = ct := List.filter_true _

@[simp] theorem sweepBinding_singleton (externalAddr : IpAddr) (binding : List (MapBindingKey × MapBindingValue)) :
    sweepBinding [externalAddr] binding = binding.filter fun e => !bindingPurged externalAddr e := by
  simp only [sweepBinding, List.all_cons, List.all_nil, Bool.and_true]

@[simp] theorem sweepCt_singleton (externalAddr : IpAddr) (ct : List MapCtKey) :
    sweepCt [externalAddr] ct = ct.filter fun ctKey => !ctPurged externalAddr ctKey := by
  simp only [sweepCt, List.all_cons, List.all_nil, Bool.and_true]

theorem sweepBinding_append (calls calls' : List IpAddr) (binding : List (MapBindingKey × MapBindingValue)) :
    sweepBinding (calls ++ calls') binding = sweepBinding calls' (sweepBinding calls binding) := by
  simp only [sweepBinding, List.filter_filter, List.all_append, Bool.and_comm]

theorem sweepCt_append (calls calls' : List IpAddr) (ct : List MapCtKey) :
    sweepCt (calls ++ calls') ct = sweepCt calls' (sweepCt calls ct) := by
  simp only [sweepCt, List.filter_filter, List.all_append, Bool.and_comm]

/-- purges of the same addresses leave the same entries, in whatever order and however often they come -/
theorem sweepBinding_congr {calls calls' : List IpAddr} (h : ∀ a, a ∈ calls ↔ a ∈ calls')
    (binding : List (MapBindingKey × MapBindingValue)) : sweepBinding calls binding = sweepBinding calls' binding :=
  List.filter_congr fun _ _ => Bool.eq_iff_iff.2 (by simp only [List.all_eq_true, h])

theorem sweepCt_congr {calls calls' : List IpAddr} (h : ∀ a, a ∈ calls ↔ a ∈ calls') (ct : List MapCtKey) :
    sweepCt calls ct = sweepCt calls' ct :=
  List.filter_congr fun _ _ => Bool.eq_iff_iff.2 (by simp only [List.all_eq_true, h])

/-- the binding and CT maps as the kernel holds them: one binding entry per key, and fewer than `2 ^ 32` entries in
each (`max_entries` is a `u32`) -/
structure Skel.Bounded (s : Skel P n) : Prop where
  nodup : (s.binding.map Prod.fst).Nodup
  binding_lt : s.binding.length < 2 ^ 32
  ct_lt : s.ct.length < 2 ^ 32

theorem Skel.Bounded.of_sublist {s s' : Skel P n} (h : s.Bounded) (hb : s'.binding.Sublist s.binding)
    (hc : s'.ct.Sublist s.ct) : s'.Bounded :=
  ⟨h.nodup.sublist (hb.map _), hb.length_le.trans_lt h.binding_lt, hc.length_le.trans_lt h.ct_lt⟩

/-- a successful run of `x` leaves of the binding and CT maps exactly the entries that no purge call it logs
deletes -/
def Sweeps (x : SkelM P n α) : Prop :=
  ∀ s a s', s.Bounded → x.run s = .ok a s' → ∃ evs, s'.log = s.log ++ evs ∧
    s'.binding = sweepBinding (evs.filterMap SkelEvent.purgeCall) s.binding ∧
    s'.ct = sweepCt (evs.filterMap SkelEvent.purgeCall) s.ct

theorem Sweeps.bind {x : SkelM P n α} {f : α → SkelM P n β} (hx : Sweeps x) (hf : ∀ a, Sweeps (f a)) :
    Sweeps (x >>= f) := by
  intro s b s'' hs h
  rw [run_bind] at h
  cases hrun : x.run s with
  | error e s' => rw [hrun] at h; cases h
  | ok a s' =>
    rw [hrun] at h
    obtain ⟨evs, hlog, hb, hc⟩ := hx s a s' hs hrun
    have hs' : s'.Bounded := hs.of_sublist (hb ▸ List.filter_sublist _) (hc ▸ List.filter_sublist _)
    obtain ⟨evs', hlog', hb', hc'⟩ := hf a s' b s'' hs' h
    refine ⟨evs ++ evs', by rw [hlog', hlog, List.append_assoc], ?_, ?_⟩
    · rw [hb', hb, List.filterMap_append, sweepBinding_append]
    · rw [hc', hc, List.filterMap_append, sweepCt_append]

theorem sweeps_pure (a : α) : Sweeps (pure a : SkelM P n α) := by
  intro s b s' _ h
  cases h
  exact ⟨[], by simp, by simp, by simp⟩

theorem sweeps_get : Sweeps (get : SkelM P n (Skel P n)) := by
  intro s b s' _ h
  cases h
  exact ⟨[], by simp, by simp, by simp⟩

/-- a change of the state that logs no purge call and leaves the binding and CT maps alone -/
theorem sweeps_modify (f : Skel P n → Skel P n) (hb : ∀ s, (f s).binding = s.binding) (hc : ∀ s, (f s).ct = s.ct)
    (hlog : ∀ s, ∃ evs, (f s).log = s.log ++ evs ∧ evs.filterMap SkelEvent.purgeCall = []) :
    Sweeps (modify f : SkelM P n Unit) := by
  intro s b s' _ h
  rw [run_modify] at h
  cases h
  obtain ⟨evs, hl, hp⟩ := hlog s
  exact ⟨evs, hl, by rw [hp, sweepBinding_nil, hb], by rw [hp, sweepCt_nil, hc]⟩

/-- an operation that leaves the binding and CT maps alone -/
theorem sweeps_issue [DecidableEq P] (fault : Fault P n) (op : MapOp P n)
    (hb : ∀ s : Skel P n, (s.perform op).binding = s.binding) (hc : ∀ s : Skel P n, (s.perform op).ct = s.ct) :
    Sweeps (issue fault op) := by
  intro s u s' _ h
  obtain rfl := run_issue_ok fault h
  exact ⟨[.mapOp op s.deletingMapEntries none], by rw [log_perform]; rfl, by simp [hb, SkelEvent.purgeCall],
    by simp [hc, SkelEvent.purgeCall]⟩

@[simp] theorem purgeCalls_lookupEvents (d : ℕ) (keys : List MapBindingKey) :
    (lookupEvents d keys : List (SkelEvent P n)).filterMap SkelEvent.purgeCall = [] :=
  List.filterMap_eq_nil_iff.2 fun _ he => by obtain ⟨k, -, rfl⟩ := List.mem_map.1 he; rfl

theorem sweeps_withSkelDeleting {f : SkelM P n α} (hf : Sweeps f) : Sweeps (withSkelDeleting f) := by
  intro s a s' hs h
  rw [run_withSkelDeleting] at h
  cases hrun : f.run s.raised with
  | error e s₁ => rw [hrun] at h; cases h
  | ok b s₁ =>
    rw [hrun] at h
    cases h
    obtain ⟨evs, hlog, hb, hc⟩ := hf s.raised _ s₁ ⟨hs.nodup, hs.binding_lt, hs.ct_lt⟩ hrun
    refine ⟨[.setDeletingMapEntries 1, .sleep] ++ evs ++ [.setDeletingMapEntries 0], ?_, ?_, ?_⟩
    · simp [Skel.lowered, Skel.raised, Skel.record, hlog]
    · simpa [Skel.lowered, SkelEvent.purgeCall] using hb
    · simpa [Skel.lowered, SkelEvent.purgeCall] using hc

/-- a successful purge of `externalAddr` is one purge call, and deletes exactly its entries -/
theorem sweeps_removeBindingAndCtEntries [DecidableEq P] (fault : Fault P n) (externalAddr : IpAddr) :
    Sweeps (removeBindingAndCtEntries fault externalAddr) := by
  intro s u s' hs h
  have hlen : ∀ f x, ((s.binding.map Prod.fst).filter (bindingDeleted s.binding f x)).length < 2 ^ 32 :=
    fun _ _ => ((List.filter_sublist _).length_le.trans_eq (List.length_map _ _)).trans_lt hs.binding_lt
  have hctlen : ∀ f x, (ctKeysToDelete f x s.ct).length < 2 ^ 32 :=
    fun _ _ => (List.filter_sublist _).length_le.trans_lt hs.ct_lt
  have hrun := run_removeBindingAndCtEntries_ok fault h
  simp only [record_binding, record_ct, record_deletingMapEntries, record_log, bindingBatch_eq _ (hlen _ _)] at hrun
  simp only [ctBatch_eq _ (hctlen _ _)] at hrun
  subst hrun
  refine ⟨_, (List.append_assoc _ _ _).trans ((List.append_assoc _ _ _).trans (List.append_assoc _ _ _)), ?_, ?_⟩
  all_goals simp only [List.singleton_append, List.filterMap_cons, SkelEvent.purgeCall, purgeCalls_lookupEvents,
    List.filterMap_append, apply_ite (List.filterMap SkelEvent.purgeCall), List.filterMap_nil, ite_self,
    List.append_nil, sweepBinding_singleton, sweepCt_singleton]
  · rw [filter_bindingDeleted hs.nodup]
    exact filter_not_mem_keys hs.nodup _
  · exact filter_not_mem_ctKeysToDelete _ _ _

end Sweeps

end Einat.DataPlane
