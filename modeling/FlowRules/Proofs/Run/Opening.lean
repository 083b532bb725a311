import FlowRules.Proofs.Run.Similar

/-!
# What sub-flows and loops come to

Main statements: a definition that is found is looked up once and read as its text has it, whatever the caches hold
(`Run.lookUp_found`), so that a sub-flow comes to its workflow (`Run.openSubFlow_found`) and a loop to its workflow and
the items that its collection has (`Run.openLoop_found`).
-/

namespace FlowRules

open World (Alike)

/-- Under a name there is a definition, and it defines a workflow or none. -/
def Services.Defines (services : Services) (name : String) (d : Option Workflow) : Prop :=
  ∃ repository text, services.repository = some repository ∧ repository.find name = .ok (some text) ∧
    Definition.read text = .ok d

/-- There is at most one definition under a name. -/
theorem Services.Defines.unique {services : Services} {name : String} {d e : Option Workflow}
    (hd : services.Defines name d) (he : services.Defines name e) : d = e := by
  obtain ⟨repository, text, hrepository, hfind, hread⟩ := hd
  obtain ⟨repository', text', hrepository', hfind', hread'⟩ := he
  rw [hrepository] at hrepository'
  cases hrepository'
  rw [hfind] at hfind'
  cases hfind'
  rw [hread] at hread'
  exact Except.ok.inj hread'

theorem Definition.read_eq_ok {text : String} {d : Option Workflow} (h : (Definition.read text).toOption = some d) :
    Definition.read text = .ok d := by
  cases hr : Definition.read text with
  | error f =>
    rw [hr] at h
    cases h
  | ok d' =>
    rw [hr] at h
    rw [Option.some.inj h]

/-! ### The items of a collection -/

namespace Value

/-- The items of a collection: those of a source are the ones that have not been taken yet. -/
def itemsLeft (cs : Cursors) : Value → List Value
  | .source id items => items.drop (cs.taken id)
  | v => v.items?.getD []

theorem allItems_run {v : Value} (hv : v.isCollection = true) (cs : Cursors) :
    ∃ taken, (Eval.allItems? v).run cs = (.ok (some (v.itemsLeft cs)), taken) := by
  cases v with
  | tuple id label items => exact ⟨cs, rfl⟩
  | list id items => exact ⟨cs, rfl⟩
  | set id items => exact ⟨cs, rfl⟩
  | dict id entries => exact ⟨cs, rfl⟩
  | source id items => exact ⟨_, rfl⟩
  | object id cls fields offers failing =>
    refine ⟨cs, ?_⟩
    have hshape : cls.shape = .model := of_decide_eq_true hv
    have hitems : ∃ items, (Value.object id cls fields offers failing).items? = some items := by
      rw [items?, if_pos hshape]
      exact ⟨_, rfl⟩
    obtain ⟨items, hitems⟩ := hitems
    show (Except.ok (Value.object id cls fields offers failing).items?, cs) =
      (Except.ok (some ((Value.object id cls fields offers failing).items?.getD [])), cs)
    rw [hitems]
    rfl
  | atom a => cases hv
  | member e name a => cases hv
  | other type => cases hv

end Value

/-! ### Looking up a definition -/

namespace Run

private theorem not_blank_of_read {text : String} {d : Option Workflow} (h : Definition.read text = .ok d) :
    Text.isBlankText text = false := by
  unfold Definition.read Definition.readBy at h
  split at h
  · cases h
  · simpa using ‹¬ Text.isBlankText text = true›

theorem load_found {set : Setting} {name : String} {d : Option Workflow} (h : set.services.Defines name d) :
    ∃ text, Definition.read text = .ok d ∧
      ∀ role w, (load set name role).attempt.run w = (.ok text, w.record (.lookedUp name)) := by
  obtain ⟨repository, text, hrepository, hfind, hread⟩ := h
  refine ⟨text, hread, fun role w => ?_⟩
  unfold load
  rw [hrepository]
  simp only [attempt_bind, attempt_lift, Act.run_record, hfind, attempt_ofExcept, not_blank_of_read hread]
  rfl

/-- What is read is what the text defines, whether definitions are kept or not. -/
theorem readDefinition_spec {w : World} (hw : w.Coherent) (set : Setting) (text : String) :
    ((readDefinition set text).attempt.run w).1 = Definition.read text ∧
      Alike w ((readDefinition set text).attempt.run w).2 := by
  unfold readDefinition
  split
  · have hread := DefinitionCache.read_eq hw.definitions text
    have hcache := World.alike_definitions hw (DefinitionCache.coherent_read hw.definitions text)
    rw [attempt_bind, attempt_get]
    dsimp only
    rcases hp : w.definitions.read text with ⟨_ | found, cache⟩ <;> rw [hp] at hread hcache
    · exact ⟨hread, hcache⟩
    · exact ⟨hread, hcache⟩
  · rw [attempt_ofExcept]
    exact ⟨rfl, Alike.refl hw⟩

/-- A definition that is found is looked up and read in a world that is like the one it is asked for in. -/
theorem lookUp_found {set : Setting} {name : String} {d : Option Workflow} (h : set.services.Defines name d)
    {w : World} (hw : w.Coherent) :
    ∃ text v, (∀ role, (load set name role).attempt.run w = (.ok text, w.record (.lookedUp name))) ∧
      (readDefinition set text).attempt.run (w.record (.lookedUp name)) = (.ok d, v) ∧ Alike w v := by
  obtain ⟨text, hread, hload⟩ := load_found h
  have hlooked : Alike w (w.record (.lookedUp name)) := World.alike_record hw rfl
  obtain ⟨hd, hv⟩ := readDefinition_spec hlooked.right set text
  rcases hr : (readDefinition set text).attempt.run (w.record (.lookedUp name)) with ⟨d', v⟩
  rw [hr] at hd hv
  dsimp only at hd hv
  rw [hread] at hd
  subst hd
  exact ⟨text, v, fun role => hload role w, hr, hlooked.trans hv⟩

/-! ### Coming to a workflow -/

/-- A condition changes nothing but the counts of items taken. -/
theorem passes_alike {s : Step} {w v : World} (hw : w.Coherent) {go : Bool}
    (hp : (passes s).attempt.run w = (.ok go, v)) : ∃ taken, Alike { w with cursors := taken } v := by
  unfold passes at hp
  split at hp
  · have hv := (Act.holds_spec hw s.condition).2
    rw [attempt_holds] at hp
    rw [hp] at hv
    exact ⟨_, hv⟩
  · cases hp
    exact ⟨w.cursors, Alike.refl hw⟩

/-- Only sub-flows and loops that are not skipped come to a workflow. -/
theorem openStep_opens {set : Setting} {s : Step} {w u : World} {o : Opening}
    (h : (openStep set s).attempt.run w = (.ok o, u)) (hdone : ∀ outcome, o ≠ .done outcome) :
    ∃ v, (passes s).attempt.run w = (.ok true, v) ∧
      (s.kind = .subFlow ∧ (openSubFlow set s).attempt.run (v.atStep s) = (.ok o, u) ∨
        s.kind = .forEach ∧ (openLoop set s).attempt.run (v.atStep s) = (.ok o, u)) := by
  rw [openStep_run] at h
  split at h
  · rename_i v hp
    refine ⟨v, hp, ?_⟩
    unfold openKind at h
    rcases hk : s.kind <;> rw [hk] at h
    · obtain ⟨outcome, -, rfl⟩ := attempt_map_ok.1 h
      exact absurd rfl (hdone outcome)
    · obtain ⟨outcome, -, rfl⟩ := attempt_map_ok.1 h
      exact absurd rfl (hdone outcome)
    · exact Or.inl ⟨rfl, h⟩
    · exact Or.inr ⟨rfl, h⟩
  · cases h
    exact absurd rfl (hdone {})
  · cases h

/-- A sub-flow comes to its workflow, if its definition has one, in a world that is like the one it begins in. -/
theorem openSubFlow_found {set : Setting} {s : Step} {d : Option Workflow} (h : set.services.Defines s.reference d)
    {w : World} (hw : w.Coherent) :
    ∃ v, (openSubFlow set s).attempt.run w = (.ok (d.elim (.done {}) .inPlace), v) ∧ Alike w v := by
  obtain ⟨text, v, hload, hread, hv⟩ := lookUp_found h hw
  cases d with
  | none =>
    let u := v.logged .info (LogMessage.subFlowEntered s.reference)
    refine ⟨u.logged .info (LogMessage.subFlowExited s.reference), ?_, (hv.logged _ _).logged _ _⟩
    simp only [openSubFlow, attempt_bind, hload, hread, attempt_lift, Act.run_log, attempt_pure]
    rfl
  | some c =>
    refine ⟨v.logged .info (LogMessage.subFlowEntered s.reference), ?_, hv.logged _ _⟩
    simp only [openSubFlow, attempt_bind, hload, hread, attempt_lift, Act.run_log, attempt_pure]
    rfl

/-- A loop raises what reading its collection raises. -/
theorem openLoop_error {set : Setting} {s : Step} {w : World} {f : Fault}
    (h : loopSource w.flow (s.collectionProperty.getD "") = .error f) :
    (openLoop set s).attempt.run w = (.error f, w) := by
  simp only [openLoop, attempt_bind, attempt_get, attempt_ofExcept, h]

/-- A loop that has no collection fails. -/
theorem openLoop_unavailable {set : Setting} {s : Step} {w : World} {message : String}
    (h : loopSource w.flow (s.collectionProperty.getD "") = .ok (.unavailable message)) :
    (openLoop set s).attempt.run w = (.ok (.done (.failure message)), w) := by
  simp only [openLoop, attempt_bind, attempt_get, attempt_ofExcept, h]
  rfl

theorem loopSource_collection {flow x : Value} {property : String}
    (h : loopSource flow property = .ok (.collection x)) : x.isCollection = true := by
  unfold loopSource at h
  split at h
  · cases h
  · rcases hf : flow.field? property with g | _ | y <;> rw [hf] at h
    · cases h
    · cases h
    · change (if y.isCollection = true then _ else _) = _ at h
      split at h
      · rename_i hy
        cases h
        exact hy
      · cases h

/-- A loop whose collection is there comes to its workflow, if its definition has one, and to the items. -/
theorem openLoop_found {set : Setting} {s : Step} {d : Option Workflow} (h : set.services.Defines s.reference d)
    {w : World} (hw : w.Coherent) {x : Value}
    (hsource : loopSource w.flow (s.collectionProperty.getD "") = .ok (.collection x)) (hx : x.isCollection = true) :
    ∃ v taken, (openLoop set s).attempt.run w =
        (.ok (d.elim (.done {}) fun c => .onEach c (x.itemsLeft w.cursors)), v) ∧
      Alike { w with cursors := taken } v := by
  obtain ⟨text, z, hload, hread, hz⟩ := lookUp_found h hw
  obtain ⟨taken, hitems⟩ := Value.allItems_run hx z.cursors
  let u := { z with cursors := taken }
  let started := LogMessage.loopStarted s.displayName (some (x.itemsLeft z.cursors).length)
  have hu : Alike { w with cursors := taken } (u.logged .info started) := (hz.withCursors taken).logged _ _
  rw [hz.cursors]
  cases d with
  | none =>
    refine ⟨(u.logged .info started).logged .info (LogMessage.loopEnded s.displayName), taken, ?_, hu.logged _ _⟩
    simp only [openLoop, attempt_bind, attempt_get, attempt_ofExcept, hsource, hload, hread, attempt_ofEval, hitems,
      attempt_lift, Act.run_log, attempt_pure, Option.getD_some]
    rfl
  | some c =>
    refine ⟨u.logged .info started, taken, ?_, hu⟩
    simp only [openLoop, attempt_bind, attempt_get, attempt_ofExcept, hsource, hload, hread, attempt_ofEval, hitems,
      attempt_lift, Act.run_log, attempt_pure, Option.getD_some]
    rfl

/-- The workflow that a step comes to is the one that its reference defines. -/
theorem openStep_defined {set : Setting} {s : Step} {w v : World} {d : Option Workflow} {c : Workflow} {o : Opening}
    (hd : set.services.Defines s.reference d) (hw : w.Coherent) (h : (openStep set s).attempt.run w = (.ok o, v))
    (ho : o = .inPlace c ∨ ∃ items, o = .onEach c items) : d = some c := by
  have hdone : ∀ outcome, o ≠ .done outcome := by
    rintro outcome rfl
    rcases ho with ho | ⟨items, ho⟩ <;> cases ho
  obtain ⟨z, hp, hkind⟩ := openStep_opens h hdone
  obtain ⟨taken, hz⟩ := passes_alike hw hp
  have hstep := (World.alike_atStep hz.right s).right
  rcases hkind with ⟨-, hrun⟩ | ⟨-, hrun⟩
  · obtain ⟨u, hfound, -⟩ := openSubFlow_found hd hstep
    rw [hfound] at hrun
    rcases d with _ | c' <;> cases hrun
    · exact absurd rfl (hdone {})
    · rcases ho with ho | ⟨items, ho⟩ <;> cases ho
      rfl
  · rcases hsource : loopSource (z.atStep s).flow (s.collectionProperty.getD "") with g | message | x
    · rw [openLoop_error hsource] at hrun
      cases hrun
    · rw [openLoop_unavailable hsource] at hrun
      cases hrun
      exact absurd rfl (hdone _)
    · obtain ⟨u, _, hfound, -⟩ := openLoop_found hd hstep hsource (loopSource_collection hsource)
      rw [hfound] at hrun
      rcases d with _ | c' <;> cases hrun
      · exact absurd rfl (hdone {})
      · rcases ho with ho | ⟨items, ho⟩ <;> cases ho
        rfl

end Run
end FlowRules
