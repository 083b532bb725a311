import FlowRules.Proofs.Run.Keeping

/-!
# What runs write

A run adds a stretch of events to the journal.  Handlers are called and return, and levels are entered and exited:
`net` counts what a stretch has opened and not closed.  A stretch is balanced when all that it opens it closes, and
what is open on the way stays within bounds.  Main statements: balanced stretches may follow one another
(`Event.Balanced.append`) and stand between an opening and its closing (`Event.Balanced.enclose`), so that writing them
can be followed through a run (`World.followed_writes`).
-/

namespace FlowRules

namespace Event

/-- What an event opens or closes among the sub-flows and loops. -/
def nesting : Event → Int
  | .entered _ => 1
  | .exited _ => -1
  | .logged _ | .called .. | .returned .. | .evaluated .. | .lookedUp _ | .started .. | .ended .. => 0

/-- What an event opens or closes among the handlers. -/
def calling : Event → Int
  | .called .. => 1
  | .returned .. => -1
  | .logged _ | .evaluated .. | .lookedUp _ | .started .. | .ended .. | .entered _ | .exited _ => 0

/-- What a stretch of events has opened and not closed. -/
def net (g : Event → Int) : List Event → Int
  | [] => 0
  | e :: es => g e + net g es

variable {g : Event → Int} {P Q : Int → Prop} {es fs : List Event}

@[simp] theorem net_nil (g : Event → Int) : net g [] = 0 := rfl

@[simp] theorem net_cons (g : Event → Int) (e : Event) (es : List Event) : net g (e :: es) = g e + net g es := rfl

@[simp] theorem net_append (g : Event → Int) (es fs : List Event) : net g (es ++ fs) = net g es + net g fs := by
  induction es with
  | nil => rw [List.nil_append, net_nil, Int.zero_add]
  | cons e es ih => rw [List.cons_append, net_cons, net_cons, ih, Int.add_assoc]

/-- All that a stretch opens it closes, and at each of its moments what is open is within bounds. -/
structure Balanced (g : Event → Int) (P : Int → Prop) (es : List Event) : Prop where
  settled : net g es = 0
  within : ∀ before, before <+: es → P (net g before)

theorem balanced_nil (h : P 0) : Balanced g P [] := by
  refine ⟨rfl, fun before hb => ?_⟩
  rw [List.prefix_nil.1 hb]
  exact h

theorem balanced_single {e : Event} (he : g e = 0) (h : P 0) : Balanced g P [e] := by
  refine ⟨by rw [net_cons, net_nil, he, Int.add_zero], fun before hb => ?_⟩
  rcases List.prefix_cons_iff.1 hb with rfl | ⟨rest, rfl, hrest⟩
  · exact h
  · rw [List.prefix_nil.1 hrest, net_cons, net_nil, he, Int.add_zero]
    exact h

theorem Balanced.append (h : Balanced g P es) (h' : Balanced g P fs) : Balanced g P (es ++ fs) := by
  constructor
  · rw [net_append, h.settled, h'.settled, Int.add_zero]
  · intro before hb
    rcases List.prefix_or_prefix_of_prefix hb (List.prefix_append es fs) with hb' | ⟨rest, rfl⟩
    · exact h.within before hb'
    · rw [net_append, h.settled, Int.zero_add]
      exact h'.within rest ((List.prefix_append_right_inj es).1 hb)

/-- A prefix of a stretch between an opening and its closing: empty, inside, or all of it. -/
theorem prefix_enclosed {o c : Event} {before : List Event} (h : before <+: o :: (es ++ [c])) :
    before = [] ∨ (∃ inside, before = o :: inside ∧ inside <+: es) ∨ before = o :: (es ++ [c]) := by
  rcases List.prefix_cons_iff.1 h with rfl | ⟨inside, rfl, hinside⟩
  · exact Or.inl rfl
  · rcases List.prefix_concat_iff.1 hinside with rfl | hinside
    · exact Or.inr (Or.inr rfl)
    · exact Or.inr (Or.inl ⟨inside, rfl, hinside⟩)

theorem Balanced.enclose (h : Balanced g P es) {o c : Event} (ho : g o = 1) (hc : g c = -1) (h0 : Q 0)
    (hQ : ∀ k, P k → Q (1 + k)) : Balanced g Q (o :: (es ++ [c])) := by
  have htotal : net g (o :: (es ++ [c])) = 0 := by
    rw [net_cons, net_append, net_cons, net_nil, ho, hc, h.settled]
    rfl
  refine ⟨htotal, fun before hb => ?_⟩
  rcases prefix_enclosed hb with rfl | ⟨inside, rfl, hinside⟩ | rfl
  · exact h0
  · rw [net_cons, ho]
    exact hQ _ (h.within inside hinside)
  · rw [htotal]
    exact h0

end Event

namespace World

variable {w v u : World} {es fs : List Event}

/-- From one world to a later one the journal has got a stretch of events, the earliest first. -/
def Wrote (w : World) (es : List Event) (v : World) : Prop := v.journal = es.reverse ++ w.journal

theorem Wrote.nil (h : v.journal = w.journal) : Wrote w [] v := h

theorem Wrote.single (w : World) (e : Event) : Wrote w [e] (w.record e) := rfl

theorem Wrote.append (h : Wrote w es v) (h' : Wrote v fs u) : Wrote w (es ++ fs) u := by
  unfold Wrote at h h' ⊢
  rw [h', h, List.reverse_append, List.append_assoc]

/-- What is written between an event that opens something and the one that closes it. -/
theorem Wrote.enclose {o : Event} (h : Wrote (w.record o) es v) (c : Event) :
    Wrote w (o :: (es ++ [c])) (v.record c) :=
  ((Wrote.single w o).append h).append (Wrote.single v c)

/-- The stretch that is written is balanced. -/
def Writes (g : Event → Int) (P : Int → Prop) (w v : World) : Prop := ∃ es, Wrote w es v ∧ Event.Balanced g P es

variable {g : Event → Int} {P Q : Int → Prop}

theorem Writes.of_journal (h0 : P 0) (h : v.journal = w.journal) : Writes g P w v :=
  ⟨[], Wrote.nil h, Event.balanced_nil h0⟩

theorem Writes.enclose {o c : Event} (h : Writes g P (w.record o) v) (ho : g o = 1) (hc : g c = -1) (h0 : Q 0)
    (hQ : ∀ k, P k → Q (1 + k)) : Writes g Q w (v.record c) := by
  obtain ⟨es, hes, hb⟩ := h
  exact ⟨_, hes.enclose c, hb.enclose ho hc h0 hQ⟩

/-- Balanced writing is followed through a run where notes and conditions neither open nor close anything. -/
theorem followed_writes (h0 : P 0) (hnote : ∀ e : Event, e.isNote = true → g e = 0)
    (hevaluated : ∀ condition seen, g (.evaluated condition seen) = 0) : Followed (Writes g P) where
  trans := by
    rintro w v u ⟨es, hes, hb⟩ ⟨fs, hfs, hb'⟩
    exact ⟨es ++ fs, hes.append hfs, hb.append hb'⟩
  unseen hjournal _ := Writes.of_journal h0 hjournal
  note w e he := ⟨[e], Wrote.single w e, Event.balanced_single (hnote e he) h0⟩
  evaluated w condition := ⟨_, Wrote.single w _, Event.balanced_single (hevaluated condition w.toScope) h0⟩

end World
end FlowRules
