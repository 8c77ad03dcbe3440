import Mathlib.Data.List.DropRight
import VinylSyntax.Journal.Service

/-!
# Delivery of events

What becomes of events while a service is used: events are logged, the least level is changed, and
sinks are emptied. Two levels stand in front of a buffer, that of the service, which changes, and
that of the fan. `Service.delivered` says which events are owed to a buffer since it was emptied
last; the buffer holds the latest of them, as many as the limit allows: see `delivery_exact`.
-/

namespace VinylSyntax

/-! ## Buffers -/

namespace Buffer

variable {buffer : Buffer} {events : List Event}

/-- A buffer holds the latest of some events, as many as the limit allows, and knows how many. -/
structure Holds (buffer : Buffer) (events : List Event) : Prop where
  toList_eq : buffer.toList = events.rtake Limits.bufferedEvents
  size_eq : buffer.size = buffer.toList.length

/-- An empty buffer holds what is left of no events. -/
theorem Holds.empty : Holds .empty [] := ⟨(List.rtake_nil _).symm, rfl⟩

/-- The last of the events are as many as are asked for, or all. -/
theorem length_rtake (events : List Event) (limit : Nat) :
    (events.rtake limit).length = min limit events.length := by
  rw [List.rtake, List.length_drop]
  omega

/-- A buffer that holds the last events is not larger than is allowed. -/
theorem Holds.size_le (h : buffer.Holds events) : buffer.size ≤ Limits.bufferedEvents := by
  rw [h.size_eq, h.toList_eq, length_rtake]
  exact Nat.min_le_left _ _

/-- An appended event makes a buffer larger by one. -/
@[simp] theorem size_append (buffer : Buffer) (event : Event) :
    (buffer.append event).size = buffer.size + 1 := rfl

/-- A dropped event makes a buffer smaller by one. -/
@[simp] theorem size_dropOldest (buffer : Buffer) : buffer.dropOldest.size = buffer.size - 1 := by
  unfold dropOldest
  cases buffer.front <;> rfl

/-- In front of a further event, a buffer drops as many events as exceed the limit. -/
theorem toList_push (h : buffer.size ≤ Limits.bufferedEvents) (event : Event) :
    (buffer.push event).toList =
      buffer.toList.drop (buffer.size + 1 - Limits.bufferedEvents) ++ [event] := by
  unfold push
  split
  · next hfull =>
    rw [toList_append, toList_dropOldest, Nat.le_antisymm h hfull, Nat.add_sub_cancel_left,
      List.drop_one]
  · next hroom =>
    rw [toList_append, Nat.sub_eq_zero_of_le (Nat.lt_of_not_le hroom), List.drop_zero]

/-- A pushed event makes a full buffer drop as many events as are too many. -/
theorem size_push (h : buffer.size ≤ Limits.bufferedEvents) (event : Event) :
    (buffer.push event).size =
      buffer.size - (buffer.size + 1 - Limits.bufferedEvents) + 1 := by
  unfold push
  split
  · next hfull =>
    rw [size_append, size_dropOldest, Nat.le_antisymm h hfull, Nat.add_sub_cancel_left]
  · next hroom =>
    rw [size_append, Nat.sub_eq_zero_of_le (Nat.lt_of_not_le hroom), Nat.sub_zero]

/-- A further event is held as the latest one. -/
theorem Holds.push (h : buffer.Holds events) (event : Event) :
    (buffer.push event).Holds (events ++ [event]) := by
  have hlimit : 0 < Limits.bufferedEvents := by decide
  have hsize : buffer.size = min Limits.bufferedEvents events.length := by
    rw [h.size_eq, h.toList_eq, length_rtake]
  -- What was dropped before and what is dropped now is what exceeds the limit now.
  have hdropped : events.length - Limits.bufferedEvents +
      (buffer.size + 1 - Limits.bufferedEvents) =
        events.length + 1 - Limits.bufferedEvents := by
    omega
  constructor
  · rw [toList_push h.size_le, h.toList_eq, List.rtake, List.rtake, List.drop_drop, hdropped,
      List.length_append, List.length_singleton, List.drop_append_of_le_length (by omega)]
  · rw [size_push h.size_le, toList_push h.size_le, List.length_append, List.length_singleton,
      List.length_drop, ← h.size_eq]

/-- How many events of a level a summary counts. -/
def Summary.count (summary : Summary) : Level → Nat
  | .error => summary.errors
  | .warning => summary.warnings
  | .info => summary.infos
  | .debug => summary.debugs

/-- The summary counts the events of a level. -/
theorem count_summary (buffer : Buffer) (level : Level) :
    buffer.summary.count level = buffer.toList.countP (·.level == level) := by
  cases level <;> rfl

/-- Every event is of one level. -/
theorem countP_levels (events : List Event) :
    events.countP (·.level == .error) + events.countP (·.level == .warning) +
      events.countP (·.level == .info) + events.countP (·.level == .debug) = events.length := by
  induction events with
  | nil => rfl
  | cons event events ih =>
    simp only [List.countP_cons, List.length_cons]
    cases event.level <;> simp <;> omega

end Buffer

/-! ## Operations -/

namespace Service

/-- What is done with a service. -/
inductive Operation where
  | log (event : Event)
  | setLevel (least : Level)
  | clear (index : Nat)
deriving DecidableEq, Inhabited

/-- Whether an operation leaves what a certain sink holds, and does not empty it. -/
def Operation.spares (index : Nat) : Operation → Bool
  | .clear emptied => emptied != index
  | _ => true

/-- The service behind an operation. -/
def perform (service : Service) : Operation → Service
  | .log event => (service.log event).1
  | .setLevel least => service.setLevel least
  | .clear index => service.clear index

/-- The service behind several operations. -/
def performAll (service : Service) (operations : List Operation) : Service :=
  operations.foldl perform service

/-- The least level behind several operations. -/
def levelBehind (least : Level) (operations : List Operation) : Level :=
  operations.foldl (fun least operation =>
    match operation with
    | .setLevel other => other
    | _ => least) least

/-- The events that several operations log and that two levels let through: the least level at the
time, which is `least` at first, and a second one, which stays. -/
def admitted (second : Level) : Level → List Operation → List Event
  | _, [] => []
  | least, .log event :: operations =>
    if event.level.passes least && event.level.passes second then
      event :: admitted second least operations
    else admitted second least operations
  | _, .setLevel least :: operations => admitted second least operations
  | least, .clear _ :: operations => admitted second least operations

/-- The events that are owed to a sink behind several operations: those let through since it was
emptied last. -/
def delivered (service : Service) (index : Nat) (operations : List Operation) : List Event :=
  let before := operations.rdropWhile (Operation.spares index)
  let since := operations.rtakeWhile (Operation.spares index)
  admitted service.fan.least (levelBehind service.least before) since

/-- Of operations behind one another, those that follow are admitted by the level behind those in
front. -/
theorem admitted_append (second least : Level) (operations more : List Operation) :
    admitted second least (operations ++ more) =
      admitted second least operations ++
        admitted second (levelBehind least operations) more := by
  induction operations generalizing least with
  | nil => rfl
  | cons operation operations ih =>
    cases operation with
    | log event =>
      simp only [List.cons_append, admitted, ih]
      split <;> rfl
    | setLevel other => exact ih other
    | clear index => exact ih least

variable {service : Service} {index : Nat} {operations : List Operation}

/-- The last operation is performed behind all others. -/
theorem performAll_concat (service : Service) (operations : List Operation)
    (operation : Operation) : service.performAll (operations ++ [operation]) =
      (service.performAll operations).perform operation :=
  List.foldl_append

/-- The level behind operations that follow one another is set by those that follow, or else by
those in front. -/
theorem levelBehind_append (least : Level) (operations more : List Operation) :
    levelBehind least (operations ++ more) = levelBehind (levelBehind least operations) more :=
  List.foldl_append

/-- Nothing is owed to a sink that was just emptied. -/
theorem delivered_of_emptied {operation : Operation} (h : operation.spares index = false) :
    service.delivered index (operations ++ [operation]) = [] := by
  have hsince : (operations ++ [operation]).rtakeWhile (Operation.spares index) = [] :=
    List.rtakeWhile_concat_neg _ _ _ (by simp [h])
  rw [delivered, hsince]
  rfl

/-- An operation that does not empty a sink adds what it logs and the levels let through. -/
theorem delivered_of_spared {operation : Operation} (h : operation.spares index = true) :
    service.delivered index (operations ++ [operation]) = service.delivered index operations ++
      admitted service.fan.least (levelBehind service.least operations) [operation] := by
  simp only [delivered]
  rw [List.rdropWhile_concat_pos _ _ _ h, List.rtakeWhile_concat_pos _ _ _ h,
    admitted_append, ← levelBehind_append, List.rdropWhile_append_rtakeWhile]

/-- What logs nothing that is let through changes nothing about what is owed. -/
theorem delivered_of_silent {operation : Operation} (h : operation.spares index = true)
    (hsilent : admitted service.fan.least (levelBehind service.least operations) [operation] = []) :
    service.delivered index (operations ++ [operation]) = service.delivered index operations := by
  rw [delivered_of_spared h, hsilent, List.append_nil]

/-- Behind some operations, a sink is a buffer that holds what is owed to it, and the levels are
known. -/
structure Delivers (service : Service) (index : Nat) (operations : List Operation)
    (behind : Service) : Prop where
  least_eq : behind.least = levelBehind service.least operations
  second_eq : behind.fan.least = service.fan.least
  held : ∃ buffer, behind.fan.sinks[index]? = some (.memory buffer) ∧
    buffer.Holds (service.delivered index operations)

/-- An event is handed to all sinks if both levels let it through. -/
theorem log_eq (service : Service) (event : Event) : (service.log event).1 =
    if event.level.passes service.least && event.level.passes service.fan.least then
      { service with
        fan := { service.fan with
          sinks := service.fan.sinks.map fun sink => (sink.accept event).1 } }
    else service := by
  by_cases hfirst : event.level.passes service.least = true <;>
    by_cases hsecond : event.level.passes service.fan.least = true <;>
      simp [log, passes, Fan.accept, hfirst, hsecond, Function.comp_def]

/-- An event that is logged is delivered. -/
theorem Delivers.log {behind : Service} (h : service.Delivers index operations behind)
    (event : Event) :
    service.Delivers index (operations ++ [.log event]) (behind.perform (.log event)) := by
  obtain ⟨hleast, hsecond, buffer, hsink, hholds⟩ := h
  have hlevel : levelBehind service.least (operations ++ [.log event]) =
      levelBehind service.least operations := levelBehind_append _ _ _
  show service.Delivers index _ (behind.log event).1
  rw [log_eq]
  split
  · next hpasses =>
    refine ⟨hleast.trans hlevel.symm, hsecond, buffer.push event, ?_, ?_⟩
    · rw [List.getElem?_map, hsink]
      rfl
    · rw [delivered_of_spared rfl, ← hleast, ← hsecond, admitted, if_pos hpasses]
      exact hholds.push event
  · next hpasses =>
    have hsilent : admitted service.fan.least (levelBehind service.least operations)
        [.log event] = [] := by
      rw [← hleast, ← hsecond, admitted, if_neg hpasses]
      rfl
    refine ⟨hleast.trans hlevel.symm, hsecond, buffer, hsink, ?_⟩
    rwa [delivered_of_silent rfl hsilent]

/-- Setting the level delivers nothing. -/
theorem Delivers.setLevel {behind : Service} (h : service.Delivers index operations behind)
    (least : Level) :
    service.Delivers index (operations ++ [.setLevel least])
      (behind.perform (.setLevel least)) := by
  obtain ⟨-, hsecond, buffer, hsink, hholds⟩ := h
  refine ⟨(levelBehind_append service.least operations [.setLevel least]).symm, hsecond, buffer,
    hsink, ?_⟩
  rwa [delivered_of_silent rfl rfl]

/-- Emptying a sink leaves all others as they are. -/
theorem Delivers.clear {behind : Service} (h : service.Delivers index operations behind)
    (emptied : Nat) :
    service.Delivers index (operations ++ [.clear emptied])
      (behind.perform (.clear emptied)) := by
  obtain ⟨hleast, hsecond, buffer, hsink, hholds⟩ := h
  have hlevel : levelBehind service.least (operations ++ [.clear emptied]) =
      levelBehind service.least operations := levelBehind_append _ _ _
  have hmodified : (behind.clear emptied).fan.sinks[index]? =
      some (if emptied = index then .memory .empty else .memory buffer) := by
    show (behind.fan.sinks.modify emptied Sink.clear)[index]? = _
    rw [List.getElem?_modify, hsink]
    rfl
  refine ⟨hleast.trans hlevel.symm, hsecond, ?_⟩
  by_cases heq : emptied = index
  · rw [if_pos heq] at hmodified
    refine ⟨.empty, hmodified, ?_⟩
    rw [delivered_of_emptied (by simp [Operation.spares, heq])]
    exact .empty
  · rw [if_neg heq] at hmodified
    refine ⟨buffer, hmodified, ?_⟩
    rwa [delivered_of_silent (by simp [Operation.spares, heq]) rfl]

/-- Every operation keeps up the delivery. -/
theorem Delivers.perform {behind : Service} (h : service.Delivers index operations behind)
    (operation : Operation) :
    service.Delivers index (operations ++ [operation]) (behind.perform operation) := by
  cases operation with
  | log event => exact h.log event
  | setLevel least => exact h.setLevel least
  | clear emptied => exact h.clear emptied

/-- Events are delivered whatever is done with a service. -/
theorem delivers_performAll (hsink : service.fan.sinks[index]? = some (.memory .empty))
    (operations : List Operation) :
    service.Delivers index operations (service.performAll operations) := by
  -- From the right, as what is owed depends on when the sink was emptied last.
  induction operations using List.reverseRecOn with
  | nil => exact ⟨rfl, rfl, .empty, hsink, .empty⟩
  | append_singleton operations operation ih =>
    rw [performAll_concat]
    exact ih.perform operation

end Service

/-- Whatever is done with a service, a sink that was an empty buffer at first is a buffer, which
holds, in order, the latest of the events that were logged since it was emptied last and that the
least level at the time and the level of the fan let through, as many of them as the limit allows.
Its summary counts the events held, each under its level. -/
theorem delivery_exact (service : Service) (index : Nat)
    (hsink : service.fan.sinks[index]? = some (.memory .empty))
    (operations : List Service.Operation) :
    let behind := service.performAll operations
    let held := (service.delivered index operations).rtake Limits.bufferedEvents
    let summary := (behind.buffer index).summary
    behind.fan.sinks[index]? = some (.memory (behind.buffer index)) ∧
      (behind.buffer index).toList = held ∧
      (∀ level, summary.count level = held.countP (·.level == level)) ∧
      summary.total = held.length ∧
      summary.errors + summary.warnings + summary.infos + summary.debugs = summary.total := by
  intro behind held summary
  obtain ⟨-, -, buffer, hbehind, hholds⟩ := service.delivers_performAll hsink operations
  have hbuffer : behind.buffer index = buffer := by
    rw [Service.buffer, hbehind]
    rfl
  have hcount : ∀ level, summary.count level = held.countP (·.level == level) := by
    intro level
    rw [Buffer.count_summary, hbuffer, hholds.toList_eq]
  have htotal : summary.total = held.length := by
    show (behind.buffer index).size = held.length
    rw [hbuffer, hholds.size_eq, hholds.toList_eq]
  refine ⟨hbuffer ▸ hbehind, hbuffer ▸ hholds.toList_eq, hcount, htotal, ?_⟩
  rw [htotal, ← Buffer.countP_levels, ← hcount, ← hcount, ← hcount, ← hcount]
  rfl

/-- Behind a change of levels and the emptying of the other sink, a buffer holds the error and the
warning that were logged, but not the event for debugging. -/
theorem delivery_exact_levels :
    let service : Service := ⟨.debug, ⟨.info, [.memory .empty, .console .error, .memory .empty]⟩⟩
    let operations : List Service.Operation :=
      [.log (.debug "unseen"), .log (.error .malformedSymbol "seen"), .clear 0,
       .log (.warning "seen"), .setLevel .error, .log (.warning "unseen")]
    service.fan.sinks[2]? = some (.memory .empty) ∧
      ((service.performAll operations).buffer 2).toList =
        [.error .malformedSymbol "seen", .warning "seen"] ∧
      ((service.performAll operations).buffer 2).summary = ⟨2, 1, 1, 0, 0⟩ := by
  intro service operations
  have hsink : service.fan.sinks[2]? = some (.memory .empty) := rfl
  obtain ⟨-, hheld, -⟩ := delivery_exact service 2 hsink operations
  refine ⟨hsink, hheld.trans ?_, ?_⟩
  · decide +kernel
  · decide +kernel

end VinylSyntax
