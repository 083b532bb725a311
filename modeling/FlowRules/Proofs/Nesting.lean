import FlowRules.Proofs.Registry
import FlowRules.Proofs.Run.Counted
import FlowRules.Proofs.Run.Journal
import FlowRules.Proofs.Workflow.Writing

/-!
# How deep runs go

Main statement: where handlers start no runs of their own, every run comes to an end, with no more than `maxNesting`
sub-flows and loops open at any moment, and the counter of open levels is after every step what it was before, so that
an executor can be called any number of times (`Run.nesting_bounded`).  Workflows may refer to themselves and to each
other.  That a run ends is told by rules that do not bound it (`Run.Executes`); what is open at a moment is read off the
journal.
-/

namespace FlowRules

open Act (Keeps)
open World (Writes)

/-- A handler does not start the run of a workflow by this. -/
def Request.StartsNoRun (r : Request) : Prop := ∀ name, r ≠ .runWorkflow name

/-- No handler of the registry starts the run of a workflow. -/
structure Services.StartsNoRuns (services : Services) : Prop where
  rule {key : Option String} {rule : Rule} (hr : Registry.resolve services.registry.rules key 0 = .ok (some rule))
    (values : Value) : (rule.call values).Asks Request.StartsNoRun
  validation {key : Option String} {validation : Validation}
    (hv : Registry.resolve services.registry.validations key 0 = .ok (some validation)) (values : Value) :
    (validation.call values).Asks Request.StartsNoRun

namespace Run

/-! ### What is open on the way -/

/-- All levels that are opened are closed, and no more than some number are open at any moment. -/
def Nests (n : Nat) : World → World → Prop := Writes Event.nesting fun k => 0 ≤ k ∧ k ≤ n

theorem followed_nests (n : Nat) : World.Followed (Nests n) := by
  refine World.followed_writes ⟨Int.le_refl 0, Int.natCast_nonneg n⟩ (fun e he => ?_) fun _ _ => rfl
  cases e <;> first | rfl | cases he

variable {services : Services} {re : Reentry} {n : Nat}

/-- A handler that starts no run opens nothing, also by running rules. -/
theorem nests_call (hre : ∀ key values, Keeps (Nests n) (re.runRule key values).attempt) {α : Type} (role : Role)
    (key : Option String) (handler : Handler α) (values : Value)
    (hs : (handler.call values).Asks Request.StartsNoRun) :
    Keeps (Nests n) (call re role key handler values).attempt := by
  intro w
  have h := followed_nests n
  have hsilent (v : World) {e : Event} (he : e.nesting = 0) : Nests n v (v.record e) :=
    ⟨[e], World.Wrote.single v e, Event.balanced_single he ⟨Int.le_refl 0, Int.natCast_nonneg n⟩⟩
  have hanswers : ∀ r, Request.StartsNoRun r → Keeps (Nests n) (answer re r) := fun r hr =>
    keeps_answer h (World.Writes.of_journal ⟨Int.le_refl 0, Int.natCast_nonneg n⟩) hre fun name hname =>
      absurd hname (hr name)
  rw [call_run]
  -- the call and the return open nothing, and what is asked between them starts no run
  exact h.trans (h.trans (hsilent w rfl) (keeps_perform h hanswers hs _)) (hsilent _ rfl)

theorem calls_nests (hs : services.StartsNoRuns) (keeps heeds : Bool)
    (hre : ∀ key values, Keeps (Nests n) (re.runRule key values).attempt) :
    Calls ⟨services, re, keeps, heeds⟩ (Nests n) :=
  ⟨fun hr values => nests_call hre _ _ _ _ (hs.rule hr values),
    fun hv => nests_call hre _ _ _ _ (hs.validation hv .null)⟩

/-- Rules that handlers run open nothing, as they start no run either. -/
theorem nests_runRule (hs : services.StartsNoRuns) (more : Nat) (key : String) (values : Value) :
    Keeps (Nests n) ((reentry services more).runRule key values).attempt := by
  induction more generalizing key values with
  | zero => exact Keeps.attempt_throw (followed_nests n) _
  | succ more ih => exact keeps_runRule (followed_nests n) (calls_nests hs true false ih) (some key) values

theorem kept_nests (hs : services.StartsNoRuns) (keeps heeds : Bool) : Kept (setting services keeps heeds) Nests where
  followed := followed_nests
  calls _ := calls_nests hs keeps heeds (nests_runRule hs maxReentry)
  nested reference h := by
    -- with the level that is entered, one more is open at each moment inside
    refine h.enclose rfl rfl ⟨Int.le_refl 0, Int.natCast_nonneg _⟩ fun k hk => ?_
    obtain ⟨hpos, hle⟩ := hk
    constructor <;> omega

/-! ### What is open where a step begins -/

/-- From one world to a later one some number of levels have been opened and not closed. -/
def Opened (k : Int) (w v : World) : Prop := ∃ events, w.Wrote events v ∧ Event.net Event.nesting events = k

variable {set : Setting} {w v u : World}

theorem Nests.opened (h : Nests n w v) : Opened 0 w v := by
  obtain ⟨events, hevents, hbalanced⟩ := h
  exact ⟨events, hevents, hbalanced.settled⟩

theorem Opened.trans {j k : Int} (h : Opened j w v) (h' : Opened k v u) : Opened (j + k) w u := by
  obtain ⟨events, hevents, rfl⟩ := h
  obtain ⟨more, hmore, rfl⟩ := h'
  exact ⟨events ++ more, hevents.append hmore, Event.net_append ..⟩

theorem opened_entered (w : World) (reference : String) : Opened 1 w (w.record (.entered reference)) :=
  ⟨_, World.Wrote.single w _, rfl⟩

private theorem ItemBegins.nests {c : Workflow} {k j : Nat} {items : List Value} (h : Kept set Nests)
    (hi : ItemBegins set (scopeAt set n c) k items w j v) : Nests n w v := by
  induction hi with
  | here => exact (h.followed n).unseen rfl rfl
  | later _ _ _ ih =>
    exact (h.followed n).trans (keeps_inChild (h.followed n) (h.scopeAt n c) _ _) ih

/-- Where a step begins, the levels that are open and those that are left make up all levels. -/
theorem Visits.opened (h : Kept set Nests) {steps : List Step} {x : Visit} (hx : Visits set n steps w x) :
    Opened (n - x.levels) w x.world := by
  induction hx with
  | @here n s rest w =>
    rw [Int.sub_self]
    exact ((h.followed n).refl w).opened
  | @later n s rest w x _ _ _ ih =>
    have hstep := (h.runStep n (fun m _ => h.scopeAt m) s w).opened.trans ih
    rwa [Int.zero_add] at hstep
  | @inPlace n s rest w v c x _ ho _ ih =>
    have hopen := keeps_openStep (h.followed n) (h.calls n) s w
    rw [ho] at hopen
    have hbegun := ((h.followed n).begun (v.record (.entered s.reference)) c.name).opened
    -- one level is opened by entering, and one less is left: the sum stays
    have hx := ((hopen.opened.trans (opened_entered v s.reference)).trans hbegun).trans ih
    have hlevels : 0 + 1 + 0 + (n - x.levels) = ((n + 1 : Nat) - x.levels : Int) := by omega
    rwa [hlevels] at hx
  | @onEach n k s rest w v u c items x _ ho hi _ ih =>
    have hopen := keeps_openStep (h.followed n) (h.calls n) s w
    rw [ho] at hopen
    have hbegun := ((h.followed n).trans (ItemBegins.nests h hi) ((h.followed n).begun u c.name)).opened
    have hx := ((hopen.opened.trans (opened_entered v s.reference)).trans hbegun).trans ih
    have hlevels : 0 + 1 + 0 + (n - x.levels) = ((n + 1 : Nat) - x.levels : Int) := by omega
    rwa [hlevels] at hx

theorem Begins.opened (h : Kept set Nests) {t : Task} {x : Visit} (hx : Begins set t w x) :
    Opened (maxNesting - x.levels) w x.world := by
  have hR := h.followed maxNesting
  induction hx with
  | @definition text w v c x hread hx =>
    have hv := keeps_readDefinition hR set text w
    rw [hread] at hv
    have hbegin := (hR.trans hv (hR.begun v c.name)).opened.trans (hx.opened h)
    rwa [Int.zero_add] at hbegin
  | @named name text w v x hload _ ih =>
    have hv := keeps_load hR set name "Workflow" w
    rw [hload] at hv
    have hbegin := hv.opened.trans ih
    rwa [Int.zero_add] at hbegin

/-! ### Calls of one executor -/

/-- A call of an executor: what it is to run, whether it may be cancelled, and the world in which it is called. -/
structure Call where
  task : Task
  heedsCancel : Bool
  world : World

/-- An executor with a counter is called some number of times, each time with the counter that the call before has
left. -/
inductive Session (services : Services) (keepsDefinitions : Bool) : Int → List Call → Int → Prop where
  | nil {d : Int} : Session services keepsDefinitions d [] d
  | cons {d d' d'' : Int} {x : Call} {r : RunResult} {v : World} {rest : List Call}
    (h : Called (setting services keepsDefinitions x.heedsCancel) d x.task x.world r v d')
    (hrest : Session services keepsDefinitions d' rest d'') : Session services keepsDefinitions d (x :: rest) d''

theorem session_iff {keepsDefinitions : Bool} {calls : List Call} {d : Int} :
    Session services keepsDefinitions 0 calls d ↔ d = 0 := by
  induction calls with
  | nil =>
    constructor
    · intro h
      cases h
      rfl
    · rintro rfl
      exact Session.nil
  | cons x rest ih =>
    constructor
    · intro h
      cases h with
      | cons h hrest =>
        obtain ⟨rfl, -⟩ := called_iff.1 h
        exact ih.1 hrest
    · rintro rfl
      exact Session.cons (called_iff.2 ⟨rfl, rfl⟩) (ih.2 rfl)

/-! ### Runs of any depth -/

/-- Where handlers start no runs, whatever workflows refer to: a run that is begun with the counter of open levels at
zero comes to an end, in one way, with the counter at zero.  So does every step, whatever the counter, which is what it
was before.  For a step that is begun in the run the counter is what is open at that moment, and no more than 32 levels
are open at any.  However often an executor is called, its counter is zero again. -/
theorem nesting_bounded (hs : services.StartsNoRuns) (keepsDefinitions heedsCancel : Bool) (t : Task) (w : World) :
    let set := setting services keepsDefinitions heedsCancel
    let p := (task set t).run w
    (∀ r v d, Called set 0 t w r v d ↔ d = 0 ∧ (r, v) = p) ∧
      (∀ d s u, ∃ q, ∀ o v d', Executes set d (.step s) u o v d' ↔ d' = d ∧ (o, v) = q) ∧
      (∀ x, Begins set t w x → ∃ events, w.Wrote events x.world ∧ ∀ o v d,
        Executes set (Event.net Event.nesting events) (.step x.step) x.world o v d ↔
          d = Event.net Event.nesting events ∧ (o, v) = (runStep set (below set x.levels) x.step).run x.world) ∧
      (∃ events, w.Wrote events p.2 ∧ ∀ moment, moment <+: events →
        0 ≤ Event.net Event.nesting moment ∧ Event.net Event.nesting moment ≤ 32) ∧
      ∀ calls d, Session services keepsDefinitions 0 calls d ↔ d = 0 := by
  intro set p
  have hkept : Kept set Nests := kept_nests hs keepsDefinitions heedsCancel
  refine ⟨fun r v d => ?_, fun d s u => ?_, fun x hx => ?_, ?_, fun calls d => session_iff⟩
  · rw [called_iff]
    exact and_congr_right' eq_comm
  · refine ⟨(runStep set (below set (levelsLeft d)) s).run u, fun o v d' => ?_⟩
    rw [executes_iff]
    exact and_congr_right' eq_comm
  · obtain ⟨events, hevents, hopen⟩ := hx.opened hkept
    -- the counter where the step begins is what is open there, so the levels left are those of the visit
    have hlevels : levelsLeft (Event.net Event.nesting events) = x.levels := by
      rw [hopen]
      unfold levelsLeft
      omega
    refine ⟨events, hevents, fun o v d => ?_⟩
    rw [executes_iff, hlevels]
    exact and_congr_right' eq_comm
  · obtain ⟨events, hevents, hbalanced⟩ := hkept.task t w
    exact ⟨events, hevents, hbalanced.within⟩

/-! ### A workflow that runs itself -/

private def selfWorkflow : Workflow :=
  { steps := [{ implementationKey := some "mark" }, { kind := .subFlow, subFlowRef := some "self" }] }

private def selfServices : Services where
  registry := { rules := [("mark", .ready ⟨"Mark", fun _ => .ask (.setState [("marked", .bool true)]) Script.done⟩)] }
  repository := some (MemoryStore.repository [("self", selfWorkflow.written)])
  construct := fun _ _ => .error (.type (.stated "no classes"))

private theorem self_startsNoRuns : selfServices.StartsNoRuns where
  rule hr values := by
    obtain ⟨k, e, he, hresolve⟩ := Registry.mem_of_resolve hr
    cases List.mem_singleton.1 he
    cases hresolve
    exact ⟨nofun, fun _ => trivial⟩
  validation hv values := by
    obtain ⟨k, e, he, -⟩ := Registry.mem_of_resolve hv
    exact absurd he List.not_mem_nil

theorem nesting_bounded_self :
    let set := setting selfServices true true
    let w := (Pipeline.start selfServices .null [] "execution" "pipeline" none).world
    let p := (task set (.named "self")).run w
    selfServices.StartsNoRuns ∧ p.1.errors = ["Sub-flow nesting exceeds 32 levels at 'self'"] ∧
      (∀ r v d, Called set 0 (.named "self") w r v d ↔ d = 0 ∧ (r, v) = p) ∧
      ∃ events, w.Wrote events p.2 ∧ ∀ moment, moment <+: events → 0 ≤ Event.net Event.nesting moment ∧
        Event.net Event.nesting moment ≤ 32 := by
  intro set w p
  obtain ⟨hcalled, -, -, hevents, -⟩ := nesting_bounded self_startsNoRuns true true (.named "self") w
  have herrors : p.1.errors = ["Sub-flow nesting exceeds 32 levels at 'self'"] := by decide +kernel
  exact ⟨self_startsNoRuns, herrors, hcalled, hevents⟩

end Run
end FlowRules
