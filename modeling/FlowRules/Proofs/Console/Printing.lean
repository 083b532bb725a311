import FlowRules.Console.Report
import FlowRules.Proofs.Console.Markup

/-!
# Printing

A command prints marked-up texts and tables of them.  Main statement: a text is printed just if it can be shown
(`Shell.prints_print`); otherwise the command ends with a fault that it does not handle, in the status 1
(`Shell.Prints.statusFrom`).
-/

namespace FlowRules

namespace Shell

variable {α β : Type} {s : Shell α} {k : α → Shell Unit} {screen after : Screen} {a : α} {e : Ending}

/-- The exit status of a command that goes on from a screen. -/
def statusFrom (s : Shell Unit) (screen : Screen) : Nat :=
  match s.run screen with
  | (.ok (), _) => 0
  | (.error ending, _) => ending.status

theorem report_status (s : Shell Unit) : s.report.status = s.statusFrom {} := by
  rw [report, statusFrom]
  rcases s.run {} with ⟨e | _, screen⟩ <;> rfl

theorem run_bind (s : Shell α) (k : α → Shell β) (screen : Screen) :
    (s >>= k).run screen =
      match s.run screen with
      | (.ok a, after) => (k a).run after
      | (.error e, after) => (.error e, after) := by
  show ((s.run >>= ExceptT.bindCont k) : StateM Screen _).run screen = _
  rw [StateT.run_bind]
  change (match s.run screen with | (r, after) => ExceptT.bindCont k r after) = _
  rcases s.run screen with ⟨_ | a, after⟩ <;> rfl

theorem statusFrom_bind_ok (h : s.run screen = (.ok a, after)) :
    (s >>= k).statusFrom screen = (k a).statusFrom after := by
  rw [statusFrom, run_bind, h]
  rfl

theorem statusFrom_bind_error (h : s.run screen = (.error e, after)) :
    (s >>= k).statusFrom screen = e.status := by
  rw [statusFrom, run_bind, h]

/-! ### Escaping faults -/

theorem orEscape_bind (x : Except Fault α) (f : α → Except Fault β) :
    (orEscape (x >>= f) : Shell β) = orEscape x >>= fun a => orEscape (f a) := by
  rcases x with _ | a <;> rfl

theorem orEscape_mapM (f : α → Except Fault β) (xs : List α) :
    (orEscape (xs.mapM f) : Shell (List β)) = xs.mapM fun x => orEscape (f x) := by
  induction xs with
  | nil => rfl
  | cons x xs ih =>
    rw [List.mapM_cons, List.mapM_cons, orEscape_bind]
    congr 1
    funext b
    rw [orEscape_bind, ih]
    rfl

/-! ### Printing -/

/-- An action puts something on the screen if something holds, and otherwise ends with a fault that is not handled. -/
def Prints (s : Shell Unit) (proper : Prop) : Prop :=
  ∀ screen, (proper → ∃ after, s.run screen = (.ok (), after)) ∧
    (¬proper → ∃ f after, s.run screen = (.error (.escaped f), after))

variable {s : Shell Unit} {proper : Prop}

theorem Prints.statusFrom (h : Prints s proper) (k : Unit → Shell Unit) (screen : Screen) :
    (proper → ∃ after, (s >>= k).statusFrom screen = (k ()).statusFrom after) ∧
      (¬proper → (s >>= k).statusFrom screen = 1) := by
  constructor
  · intro hproper
    obtain ⟨after, hrun⟩ := (h screen).1 hproper
    exact ⟨after, statusFrom_bind_ok hrun⟩
  · intro hproper
    obtain ⟨f, after, hrun⟩ := (h screen).2 hproper
    exact statusFrom_bind_error hrun

/-- Where all that follows ends in the status 1, it does not matter whether something can be printed before. -/
theorem Prints.statusFrom_eq_one {k : Unit → Shell Unit} (h : Prints s proper)
    (hnext : ∀ screen, (k ()).statusFrom screen = 1) (screen : Screen) : (s >>= k).statusFrom screen = 1 := by
  by_cases hproper : proper
  · obtain ⟨after, hafter⟩ := (h.statusFrom k screen).1 hproper
    exact hafter.trans (hnext after)
  · exact (h.statusFrom k screen).2 hproper

theorem prints_orEscape (x : Except Fault α) (item : α → PageItem) :
    Prints (orEscape x >>= fun a => put (item a)) (∃ a, x = .ok a) := by
  intro screen
  rcases x with f | a
  · exact ⟨nofun, fun _ => ⟨f, screen, rfl⟩⟩
  · exact ⟨fun _ => ⟨_, rfl⟩, fun h => absurd ⟨a, rfl⟩ h⟩

theorem prints_print (render : Renderer) (markup : String) : Prints (print render markup) (render.IsProper markup) :=
  prints_orEscape (render.text markup) .text

end Shell

end FlowRules
