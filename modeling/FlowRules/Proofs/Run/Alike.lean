import FlowRules.Proofs.Run.Action
import FlowRules.Proofs.Run.Coherence

/-!
# Worlds that no handler can tell apart

Two coherent worlds are alike when they differ in nothing but their caches, their loggers, and what the journal has
besides calls of handlers.  What the engine writes for its own use keeps a world like itself (`World.alike_record`,
`World.alike_begun`), and what handlers ask for keeps two worlds alike when it is done to both (`World.Alike.change`).
-/

namespace FlowRules

/-- A handler is called or has ended. -/
def Event.isCall : Event → Bool
  | .called .. | .returned .. => true
  | _ => false

namespace World

/-- The calls of handlers and what they left behind, the latest first. -/
def calls (w : World) : List Event := w.journal.filter Event.isCall

structure Alike (w v : World) : Prop where
  scope : w.toScope = v.toScope
  memory : w.memory = v.memory
  cursors : w.cursors = v.cursors
  calls : w.calls = v.calls
  left : w.Coherent
  right : v.Coherent

variable {w v u : World}

theorem Alike.refl (hw : w.Coherent) : Alike w w := ⟨rfl, rfl, rfl, rfl, hw, hw⟩

theorem Alike.symm (h : Alike w v) : Alike v w :=
  ⟨h.scope.symm, h.memory.symm, h.cursors.symm, h.calls.symm, h.right, h.left⟩

theorem Alike.trans (h : Alike w v) (h' : Alike v u) : Alike w u :=
  ⟨h.scope.trans h'.scope, h.memory.trans h'.memory, h.cursors.trans h'.cursors, h.calls.trans h'.calls, h.left,
    h'.right⟩

theorem calls_record_of_isCall {e : Event} (he : e.isCall = true) : (w.record e).calls = e :: w.calls :=
  List.filter_cons_of_pos he

theorem calls_record {e : Event} (he : e.isCall = false) : (w.record e).calls = w.calls :=
  List.filter_cons_of_neg (by simp [he])

/-- What is recorded besides calls does not show. -/
theorem alike_record (hw : w.Coherent) {e : Event} (he : e.isCall = false) : Alike w (w.record e) :=
  ⟨rfl, rfl, rfl, (calls_record he).symm, hw, ⟨hw.conditions, hw.definitions, hw.memory⟩⟩

theorem alike_logged (hw : w.Coherent) (level : LogLevel) (message : String) : Alike w (w.logged level message) :=
  alike_record hw rfl

theorem alike_logger (hw : w.Coherent) (l : ScopedLogger) : Alike w { w with logger := l } :=
  ⟨rfl, rfl, rfl, rfl, hw, ⟨hw.conditions, hw.definitions, hw.memory⟩⟩

theorem alike_definitions (hw : w.Coherent) {d : DefinitionCache} (hd : d.Coherent) :
    Alike w { w with definitions := d } :=
  ⟨rfl, rfl, rfl, rfl, hw, ⟨hw.conditions, hd, hw.memory⟩⟩

theorem alike_begun (hw : w.Coherent) (name : String) : Alike w (w.begun name) := by
  have hv := alike_record (e := .started name w.toScope) hw rfl
  have hu := hv.trans (alike_logger hv.right (w.logger.inScope name))
  exact hu.trans (alike_logged hu.right _ _)

theorem alike_ended (hw : w.Coherent) (name : String) (b : Bool) (previous : Option String) :
    Alike w (w.ended name b previous) := by
  have hv := alike_logger hw (w.logger.inScope name)
  have hu := hv.trans (alike_logged hv.right .info (LogMessage.scopeEnded name b))
  have hl := hu.trans (alike_logger hu.right (((w.logger.inScope name)).leaving previous))
  exact hl.trans (alike_record hl.right rfl)

theorem alike_atStep (hw : w.Coherent) (s : Step) : Alike w (w.atStep s) := by
  have hv := alike_logger hw (w.logger.atStep s.displayName)
  exact hv.trans (alike_logged hv.right _ _)

/-! ### Changes made to one of two worlds -/

theorem Alike.recorded (h : Alike w v) {e : Event} (he : e.isCall = false) : Alike w (v.record e) :=
  h.trans (alike_record h.right he)

theorem Alike.logged (h : Alike w v) (level : LogLevel) (message : String) : Alike w (v.logged level message) :=
  h.trans (alike_logged h.right level message)

/-! ### Changes made to both of two worlds -/

theorem Alike.record (h : Alike w v) {e e' : Event} (he : e.isCall = false) (he' : e'.isCall = false) :
    Alike (w.record e) (v.record e') :=
  ((alike_record h.left he).symm.trans h).trans (alike_record h.right he')

theorem Alike.record_call (h : Alike w v) {e : Event} (he : e.isCall = true) : Alike (w.record e) (v.record e) := by
  refine ⟨h.scope, h.memory, h.cursors, ?_, ⟨h.left.conditions, h.left.definitions, h.left.memory⟩,
    ⟨h.right.conditions, h.right.definitions, h.right.memory⟩⟩
  rw [calls_record_of_isCall he, calls_record_of_isCall he, h.calls]

theorem Alike.logger (h : Alike w v) (l l' : ScopedLogger) : Alike { w with logger := l } { v with logger := l' } :=
  ((alike_logger h.left l).symm.trans h).trans (alike_logger h.right l')

theorem Alike.begun (h : Alike w v) (name name' : String) : Alike (w.begun name) (v.begun name') :=
  ((alike_begun h.left name).symm.trans h).trans (alike_begun h.right name')

theorem Alike.ended (h : Alike w v) (name name' : String) (b b' : Bool) (p p' : Option String) :
    Alike (w.ended name b p) (v.ended name' b' p') :=
  ((alike_ended h.left name b p).symm.trans h).trans (alike_ended h.right name' b' p')

theorem Alike.withCursors (h : Alike w v) (cs : Cursors) : Alike { w with cursors := cs } { v with cursors := cs } :=
  ⟨h.scope, h.memory, rfl, h.calls, ⟨h.left.conditions, h.left.definitions, h.left.memory⟩,
    ⟨h.right.conditions, h.right.definitions, h.right.memory⟩⟩

theorem Alike.withScope (h : Alike w v) {s s' : Scope} (hs : s = s') :
    Alike { w with toScope := s } { v with toScope := s' } :=
  ⟨hs, h.memory, h.cursors, h.calls, ⟨h.left.conditions, h.left.definitions, h.left.memory⟩,
    ⟨h.right.conditions, h.right.definitions, h.right.memory⟩⟩

theorem Alike.withMemory (h : Alike w v) {m : Memory} (hm : m.Faithful) :
    Alike { w with memory := m } { v with memory := m } :=
  ⟨h.scope, rfl, h.cursors, h.calls, ⟨h.left.conditions, h.left.definitions, hm⟩,
    ⟨h.right.conditions, h.right.definitions, hm⟩⟩

theorem Alike.latest (h : Alike w v) (x : Value) : w.latest x = v.latest x := by
  unfold World.latest
  rw [h.memory]

theorem Alike.change (h : Alike w v) (x : Value) : Alike (w.change x) (v.change x) := by
  unfold World.change
  split
  · exact h.withScope (s := { w.toScope with flow := x }) (by rw [h.scope])
  · rename_i id hx
    have hm := h.withMemory (Memory.faithful_write h.left.memory hx)
    rw [← h.memory]
    refine hm.withScope (s := { w.toScope with flow := _, state := _ }) ?_
    rw [h.scope]

theorem Alike.intoItem (h : Alike w v) (item : Value) : Alike (w.intoItem item) (v.intoItem item) := by
  refine h.withScope (s := { w.toScope with flow := w.latest item, depth := w.toScope.depth + 1 }) ?_
  rw [h.scope, h.latest]

theorem Alike.outOfItem (h : Alike w v) {outer outer' : World} (ho : outer.toScope = outer'.toScope) :
    Alike (w.outOfItem outer) (v.outOfItem outer') := by
  refine h.withScope (s := { w.toScope with flow := w.latest outer.toScope.flow, depth := outer.toScope.depth }) ?_
  rw [h.scope, h.latest, ho]

end World
end FlowRules
