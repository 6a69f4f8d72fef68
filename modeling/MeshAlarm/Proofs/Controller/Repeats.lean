import MeshAlarm.Proofs.Controller.Effect
import MeshAlarm.Proofs.Handler.Runs
import MeshAlarm.Proofs.TypeOrder

/-!
# Repeated payloads

A transport that misses an acknowledgement sends a payload again. To a controller the copy is as
good as nothing: what it registers is registered, what it writes is written, and the discovery is
where it leads. Only who counts payloads can tell: a malformed copy is counted again, and the event
of any other copy is announced again.

This rests on two facts. No event writes an index twice, so that its operations find nothing to do
once they have been carried out. And what becomes of a payload does not depend on the count.

## Main definitions

* `Handler.brought`: the event that a payload brings
* `Controller.heard`, `Controller.announced`: a controller after a payload that is not counted, and
  what is announced of it
* `Controller.receiveAll`, `Controller.heardAll`, `Controller.announcedAll`: the same for payloads
  in a row
* `Controller.counting`: a controller with another count of dropped payloads
* `Controller.resent`: payloads with their copies
* `Controller.CopiesLost`: what payloads leave with and without their copies

## Main results

* `Report.nodup_writes`, `Event.idle_operations`: the operations of an event, once more
* `Controller.effect_receiveAll`: what payloads in a row do, but for the count
* `Controller.heard_heard`, `Controller.announced_heard`: a copy is as good as nothing
* `Controller.copies_change_nothing`: so are any number of copies of any number of payloads
-/

namespace MeshAlarm

/-! ### Operations once more -/

namespace Registry

variable (r : Registry)

/-- A registration finds nothing to do after itself. -/
theorem idle_register_after {ops : List Operation} {index : Int} {name : String}
    (h : .register index name ∈ ops) : (r.after ops).Idle (.register index name) :=
  (r.isRegistered_after ops index).2 (.inr ⟨name, h⟩)

/-- Of writes to different indices, each one that reaches a value is what the value holds. -/
theorem content?_after_write_of_mem {ws : List (Int × Value)} (h : (ws.map Prod.fst).Nodup)
    {w : Int × Value} (hw : w ∈ ws) (hr : r.isRegistered w.1) :
    (r.after (ws.map .write)).content? w.1 = some w.2 := by
  refine content?_after_of_mem r hr (publish_mem_writes_iff.2 ⟨w.2, hw, rfl⟩) ?_
  intro other hother
  obtain ⟨value, hmem, rfl⟩ := publish_mem_writes_iff.1 hother
  have hsame : (w.1, value) = w := List.inj_on_of_nodup_map h hmem hw rfl
  rw [← hsame]

/-- Writes to different indices find nothing to do after themselves. -/
theorem idle_writes_after {ws : List (Int × Value)} (h : (ws.map Prod.fst).Nodup)
    {op : Operation} (hop : op ∈ ws.map Operation.write) : (r.after (ws.map .write)).Idle op := by
  obtain ⟨w, hw, rfl⟩ := List.mem_map.1 hop
  refine idle_publish _ fun hr => ?_
  rw [isRegistered_after_writes] at hr
  exact r.content?_after_write_of_mem h hw hr

end Registry

/-- A report writes every index at most once. -/
theorem Report.nodup_writes (r : Report) : (r.writes.map Prod.fst).Nodup := by
  have hfixed : ValueIndex.alarmType ≠ ValueIndex.level ∧
      ValueIndex.alarmType ≠ ValueIndex.lockState ∧
      ValueIndex.alarmType ≠ ValueIndex.sourceNodeId ∧
      ValueIndex.level ≠ ValueIndex.lockState ∧ ValueIndex.level ≠ ValueIndex.sourceNodeId ∧
      ValueIndex.lockState ≠ ValueIndex.sourceNodeId := by
    decide
  have htype (t : EventType) : ValueIndex.alarmType ≠ ValueIndex.ofEventType t ∧
      ValueIndex.level ≠ ValueIndex.ofEventType t ∧
      ValueIndex.lockState ≠ ValueIndex.ofEventType t ∧
      ValueIndex.sourceNodeId ≠ ValueIndex.ofEventType t :=
    ⟨(ValueIndex.ofEventType_ne_alarmType t).symm, (ValueIndex.ofEventType_ne_level t).symm,
      (ValueIndex.ofEventType_ne_lockState t).symm, (ValueIndex.ofEventType_ne_sourceNodeId t).symm⟩
  unfold writes
  cases r.lockState? <;> cases r.sourceNodeId <;> cases r.knownEventType? <;>
    cases r.eventParameter <;> simp [hfixed, htype]

/-- The operations of an event find nothing to do after themselves. -/
theorem Event.idle_operations (event : Event) (r : Registry) :
    ∀ op ∈ event.operations, (r.after event.operations).Idle op := by
  intro op hop
  cases event with
  | report report => exact r.idle_writes_after report.nodup_writes hop
  | supported report =>
    rcases List.mem_cons.1 hop with rfl | htype
    · exact r.idle_register_after hop
    · obtain ⟨t, -, rfl⟩ := List.mem_map.1 htype
      exact r.idle_register_after hop
  | get | supportedGet | bare => cases hop

/-! ### Payloads, but for the count -/

/-- The event that a payload brings to a handler of a version. One that brings nothing brings the
bare event, which does nothing. -/
def Handler.brought (version : Int) (payload : List UInt8) : Event :=
  if handles payload then
    match Event.ofPayload version payload with
    | .ok event => event
    | .error _ => .bare
  else .bare

/-- A discovery that is complete is completed once more. -/
theorem Handler.informed_informed (event : Event) (h : Handler) :
    informed event (informed event h) = informed event h := by
  cases event <;> rfl

namespace Controller

variable (c : Controller)

/-- A controller after a payload, which is not counted. -/
def heard (payload : List UInt8) : Controller :=
  let event := Handler.brought c.handler.version payload
  ⟨Handler.informed event c.handler, c.registry.after event.operations⟩

/-- What is announced of the registry on account of a payload. -/
def announced (payload : List UInt8) : List Notice :=
  ((Act.each Registry.perform
    (Handler.brought c.handler.version payload).operations).effect c.registry).emitted

/-- A controller with another count of dropped payloads. -/
def counting (count : Nat) : Controller :=
  { c with handler.discarded := count }

@[simp] theorem counting_counting (count count' : Nat) :
    (c.counting count).counting count' = c.counting count' := rfl

/-- What becomes of a payload does not depend on the count. -/
theorem heard_counting (count : Nat) (payload : List UInt8) :
    (c.counting count).heard payload = (c.heard payload).counting count := by
  simp only [heard, counting]
  cases Handler.brought c.handler.version payload <;> rfl

theorem announced_counting (count : Nat) (payload : List UInt8) :
    (c.counting count).announced payload = c.announced payload := rfl

/-- A payload does what its event does, but for the count. -/
theorem effect_receive (payload : List UInt8) :
    ∃ count signals, (receive payload).effect c =
        ⟨.ok (Handler.handles payload), (c.heard payload).counting count, signals⟩ ∧
      Signal.noticesOf signals = c.announced payload := by
  unfold heard announced Handler.brought
  cases hp : Handler.handles payload with
  | false => exact ⟨c.handler.discarded, c.effect_receive_of_not_handles hp⟩
  | true =>
    cases hevent : Event.ofPayload c.handler.version payload with
    | error fault => exact ⟨c.handler.discarded + 1, c.effect_receive_of_error hp hevent⟩
    | ok event =>
      exact ⟨(Handler.informed event c.handler).discarded, c.effect_receive_of_ok hp hevent⟩

/-- Takes payloads in a row. -/
def receiveAll (payloads : List (List UInt8)) : Act Controller Signal Unit :=
  Act.each (fun payload => (fun _ => ()) <$> receive payload) payloads

/-- A controller after payloads in a row, which are not counted. -/
def heardAll (payloads : List (List UInt8)) : Controller :=
  payloads.foldl heard c

/-- What is announced of the registry on account of payloads in a row. -/
def announcedAll : Controller → List (List UInt8) → List Notice
  | _, [] => []
  | c, payload :: payloads => c.announced payload ++ announcedAll (c.heard payload) payloads

@[simp] theorem heardAll_cons (payload : List UInt8) (payloads : List (List UInt8)) :
    c.heardAll (payload :: payloads) = (c.heard payload).heardAll payloads := rfl

theorem heardAll_counting (count : Nat) (payloads : List (List UInt8)) :
    (c.counting count).heardAll payloads = (c.heardAll payloads).counting count := by
  induction payloads generalizing c with
  | nil => rfl
  | cons payload payloads ih => rw [heardAll_cons, heard_counting, ih, heardAll_cons]

theorem announcedAll_counting (count : Nat) (payloads : List (List UInt8)) :
    (c.counting count).announcedAll payloads = c.announcedAll payloads := by
  induction payloads generalizing c with
  | nil => rfl
  | cons payload payloads ih =>
    rw [announcedAll, announced_counting, heard_counting, ih, announcedAll]

/-- Payloads in a row do what their events do, but for the count. -/
theorem effect_receiveAll (payloads : List (List UInt8)) :
    ∃ count signals, (receiveAll payloads).effect c =
        ⟨.ok (), (c.heardAll payloads).counting count, signals⟩ ∧
      Signal.noticesOf signals = c.announcedAll payloads := by
  induction payloads generalizing c with
  | nil => exact ⟨c.handler.discarded, [], rfl, rfl⟩
  | cons payload payloads ih =>
    obtain ⟨first, signals, hfirst, hsignals⟩ := c.effect_receive payload
    obtain ⟨count, more, hrest, hmore⟩ := ih ((c.heard payload).counting first)
    rw [heardAll_counting, counting_counting] at hrest
    refine ⟨count, signals ++ more, ?_, ?_⟩
    · unfold receiveAll at hrest ⊢
      simp only [Act.each, Act.effect_bind, Act.effect_map, hfirst, Effect.andThen_ok,
        Effect.behind_mk, hrest, List.append_nil]
      rfl
    · rw [Signal.noticesOf_append, hsignals, hmore, announcedAll_counting, announcedAll]

/-! ### Copies -/

theorem version_heard (payload : List UInt8) :
    (c.heard payload).handler.version = c.handler.version :=
  Handler.version_informed _ _

/-- A copy brings the event that the payload brought, and its operations are idle by then. -/
theorem idle_operations_heard (payload : List UInt8) :
    ∀ op ∈ (Handler.brought (c.heard payload).handler.version payload).operations,
      (c.heard payload).registry.Idle op := by
  rw [version_heard]
  exact Event.idle_operations _ c.registry

/-- A copy leaves a controller as the payload left it. -/
theorem heard_heard (payload : List UInt8) : (c.heard payload).heard payload = c.heard payload := by
  have hregistry := Registry.after_of_idle _ (c.idle_operations_heard payload)
  have hhandler : Handler.informed (Handler.brought (c.heard payload).handler.version payload)
      (c.heard payload).handler = (c.heard payload).handler := by
    rw [version_heard]
    exact Handler.informed_informed _ _
  conv_lhs => rw [heard, hregistry, hhandler]

/-- Of a copy nothing is announced. -/
theorem announced_heard (payload : List UInt8) : (c.heard payload).announced payload = [] :=
  congrArg Effect.emitted (Registry.effect_each_of_idle _ (c.idle_operations_heard payload))

theorem heardAll_replicate (payload : List UInt8) (copies : Nat) :
    c.heardAll (List.replicate (copies + 1) payload) = c.heard payload := by
  induction copies generalizing c with
  | zero => rfl
  | succ copies ih => rw [List.replicate_succ, heardAll_cons, ih, heard_heard]

theorem announcedAll_replicate (payload : List UInt8) (copies : Nat) :
    c.announcedAll (List.replicate (copies + 1) payload) = c.announced payload := by
  induction copies generalizing c with
  | zero => exact List.append_nil _
  | succ copies ih =>
    rw [List.replicate_succ, announcedAll, ih, announced_heard, List.append_nil]

theorem heardAll_append (payloads more : List (List UInt8)) :
    c.heardAll (payloads ++ more) = (c.heardAll payloads).heardAll more :=
  List.foldl_append

theorem announcedAll_append (payloads more : List (List UInt8)) :
    c.announcedAll (payloads ++ more) =
      c.announcedAll payloads ++ (c.heardAll payloads).announcedAll more := by
  induction payloads generalizing c with
  | nil => rfl
  | cons payload payloads ih =>
    rw [List.cons_append, announcedAll, ih, announcedAll, heardAll_cons, List.append_assoc]

/-- Payloads, each followed by a number of copies of itself. -/
def resent (sent : List (List UInt8 × Nat)) : List (List UInt8) :=
  sent.flatMap fun (payload, copies) => List.replicate (copies + 1) payload

theorem heardAll_resent (sent : List (List UInt8 × Nat)) :
    c.heardAll (resent sent) = c.heardAll (sent.map Prod.fst) := by
  induction sent generalizing c with
  | nil => rfl
  | cons first sent ih =>
    rw [resent, List.flatMap_cons, heardAll_append, heardAll_replicate, List.map_cons,
      heardAll_cons]
    exact ih _

theorem announcedAll_resent (sent : List (List UInt8 × Nat)) :
    c.announcedAll (resent sent) = c.announcedAll (sent.map Prod.fst) := by
  induction sent generalizing c with
  | nil => rfl
  | cons first sent ih =>
    rw [resent, List.flatMap_cons, announcedAll_append, announcedAll_replicate, heardAll_replicate,
      List.map_cons, announcedAll]
    exact congrArg _ (ih _)

/-- Payloads in a row leave the same with and without their copies. -/
structure CopiesLost (sent : List (List UInt8 × Nat)) : Prop where
  /-- All payloads are answered, copies or not. -/
  answered : ((receiveAll (sent.map Prod.fst)).run c).result = .ok () ∧
    ((receiveAll (resent sent)).run c).result = .ok ()
  /-- The values are the same, with their indices, names and contents, and in the same order. -/
  registry : ((receiveAll (resent sent)).run c).after.registry =
    ((receiveAll (sent.map Prod.fst)).run c).after.registry
  discovery : ((receiveAll (resent sent)).run c).after.handler.discovery =
    ((receiveAll (sent.map Prod.fst)).run c).after.handler.discovery
  /-- The same additions and changes are announced, in the same order. -/
  notices : Signal.noticesOf ((receiveAll (resent sent)).run c).trace.emissions =
    Signal.noticesOf ((receiveAll (sent.map Prod.fst)).run c).trace.emissions
  /-- Nothing else of the state differs, but for the count of dropped payloads. -/
  rest : ∃ count, ((receiveAll (resent sent)).run c).after =
    ((receiveAll (sent.map Prod.fst)).run c).after.counting count

/-- **Copies change nothing.** Whatever the state of a controller, copies of payloads, any number of
each and each right behind its payload, leave the values and the discovery as they are without them,
and nothing is announced of them. -/
theorem copies_change_nothing (sent : List (List UInt8 × Nat)) : CopiesLost c sent := by
  obtain ⟨count, signals, honce, hsignals⟩ := c.effect_receiveAll (sent.map Prod.fst)
  obtain ⟨count', more, hagain, hmore⟩ := c.effect_receiveAll (resent sent)
  obtain ⟨hresult, hafter, hemitted⟩ := Act.run_of_effect honce
  obtain ⟨hresult', hafter', hemitted'⟩ := Act.run_of_effect hagain
  rw [heardAll_resent] at hafter'
  constructor
  case answered => exact ⟨hresult, hresult'⟩
  case registry =>
    rw [hafter, hafter']
    rfl
  case discovery =>
    rw [hafter, hafter']
    rfl
  case notices => rw [hemitted, hemitted', hsignals, hmore, announcedAll_resent]
  case rest => exact ⟨count', by rw [hafter, hafter', counting_counting]⟩

end Controller

end MeshAlarm
