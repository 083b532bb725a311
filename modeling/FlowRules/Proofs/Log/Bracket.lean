import FlowRules.Log.Basic
import FlowRules.Proofs.Run.Journal

/-!
# Brackets in the log

A scope is told by two texts, one where it begins and one where it ends, and so is a level, which is a sub-flow or a
loop.  What a run opens and closes is a forest of spans; a level that is refused at the nesting limit is opened and never
closed.  `Event.brackets` reads the opening and closing texts off a stretch of events.  Main statements: the texts of
spans none of which is refused are properly nested (`Spans.nested_texts`), and what tells of scopes among the texts of
any spans are the texts of the scopes alone, which are properly nested (`Spans.filter_texts`, `Spans.nested_scopes`).
-/

namespace FlowRules

namespace Text

theorem startsWith_append (start rest : String) : startsWith (start ++ rest) start = true := by
  rw [startsWith, String.toList_append, List.isPrefixOf_iff_prefix]
  exact List.prefix_append _ _

theorem head_of_startsWith {text start : String} {c : Char} (h : startsWith text start = true)
    (hc : start.toList.head? = some c) : text.toList.head? = some c := by
  obtain ⟨rest, hrest⟩ := List.isPrefixOf_iff_prefix.1 h
  rw [← hrest, List.head?_append, hc]
  rfl

/-- A text does not begin with what differs from its start within the length of both. -/
theorem startsWith_append_ne {start other : String} (rest : String)
    (h : other.toList.take start.length ≠ start.toList.take other.length) :
    startsWith (start ++ rest) other = false := by
  rw [startsWith, String.toList_append, Bool.eq_false_iff]
  intro hprefix
  obtain ⟨tail, htail⟩ := List.isPrefixOf_iff_prefix.1 hprefix
  have hother : (start.toList ++ rest.toList).take other.length = other.toList := by
    rw [← htail, List.take_left' String.length_toList]
  have hstart : (start.toList ++ rest.toList).take start.length = start.toList := List.take_left' String.length_toList
  refine h ?_
  rw [← hother, ← hstart, List.take_take, List.take_take, hstart, Nat.min_comm]

end Text

/-! ### Levels -/

/-- What a run goes into one level deeper. -/
inductive Level where
  | subFlow (reference : String)
  | loop (label : String) (count : Nat)
  deriving DecidableEq, Repr

namespace Level

def opening : Level → String
  | subFlow reference => LogMessage.subFlowEntered reference
  | loop label count => LogMessage.loopStarted label (some count)

def closing : Level → String
  | subFlow reference => LogMessage.subFlowExited reference
  | loop label _ => LogMessage.loopEnded label

end Level

/-! ### Texts that open or close something -/

namespace LogMessage

/-- A text that tells where a scope begins or ends. -/
def tellsScope (text : String) : Bool :=
  Text.startsWith text "--- Starting Scope: " || Text.startsWith text "--- Ending Scope: "

/-- A text that tells where a level begins or ends. -/
def tellsLevel (text : String) : Bool :=
  Text.startsWith text "-> Entering SubFlow: " || Text.startsWith text "<- Exiting SubFlow: " ||
    Text.startsWith text "--- Starting Loop: " || Text.startsWith text "--- Ending Loop: "

def isBracket (text : String) : Bool := tellsScope text || tellsLevel text

theorem tellsScope_scopeStarted (workflow : String) : tellsScope (scopeStarted workflow) = true := by
  unfold tellsScope scopeStarted
  rw [String.append_assoc, Bool.or_eq_true_iff]
  exact Or.inl (Text.startsWith_append _ _)

theorem tellsScope_scopeEnded (workflow : String) (succeeded : Bool) :
    tellsScope (scopeEnded workflow succeeded) = true := by
  unfold tellsScope scopeEnded
  simp only [String.append_assoc, Bool.or_eq_true_iff]
  exact Or.inr (Text.startsWith_append _ _)

/-- A text with a start that no bracket of a scope has. -/
theorem tellsScope_append {start : String} (rest : String)
    (hstarting : "--- Starting Scope: ".toList.take start.length ≠ start.toList.take 20)
    (hending : "--- Ending Scope: ".toList.take start.length ≠ start.toList.take 18) :
    tellsScope (start ++ rest) = false := by
  unfold tellsScope
  rw [Bool.or_eq_false_iff]
  exact ⟨Text.startsWith_append_ne rest hstarting, Text.startsWith_append_ne rest hending⟩

theorem tellsScope_opening (l : Level) : tellsScope l.opening = false := by
  cases l with
  | subFlow reference => exact tellsScope_append _ (by decide) (by decide)
  | loop label count =>
    unfold Level.opening loopStarted
    simp only [String.append_assoc]
    exact tellsScope_append _ (by decide) (by decide)

theorem tellsScope_closing (l : Level) : tellsScope l.closing = false := by
  cases l with
  | subFlow reference => exact tellsScope_append _ (by decide) (by decide)
  | loop label count =>
    unfold Level.closing loopEnded
    simp only [String.append_assoc]
    exact tellsScope_append _ (by decide) (by decide)

theorem isBracket_of_tellsScope {text : String} (h : tellsScope text = true) : isBracket text = true := by
  rw [isBracket, h, Bool.true_or]

theorem isBracket_of_tellsLevel {text : String} (h : tellsLevel text = true) : isBracket text = true := by
  rw [isBracket, h, Bool.or_true]

theorem isBracket_opening (l : Level) : isBracket l.opening = true := by
  refine isBracket_of_tellsLevel ?_
  unfold tellsLevel
  simp only [Bool.or_eq_true_iff]
  cases l with
  | subFlow reference => exact Or.inl (Or.inl (Or.inl (Text.startsWith_append _ _)))
  | loop label count =>
    unfold Level.opening loopStarted
    simp only [String.append_assoc]
    exact Or.inl (Or.inr (Text.startsWith_append _ _))

theorem isBracket_closing (l : Level) : isBracket l.closing = true := by
  refine isBracket_of_tellsLevel ?_
  unfold tellsLevel
  simp only [Bool.or_eq_true_iff]
  cases l with
  | subFlow reference => exact Or.inl (Or.inl (Or.inr (Text.startsWith_append _ _)))
  | loop label count =>
    unfold Level.closing loopEnded
    simp only [String.append_assoc]
    exact Or.inr (Text.startsWith_append _ _)

/-- All brackets begin with a dash or an arrow. -/
theorem isBracket_of_head {text : String} {c : Char} (hhead : text.toList.head? = some c) (hdash : c ≠ '-')
    (harrow : c ≠ '<') : isBracket text = false := by
  have hstart {start : String} (h : start.toList.head? = some '-' ∨ start.toList.head? = some '<') :
      Text.startsWith text start = false := by
    rw [Bool.eq_false_iff]
    intro hstarts
    rcases h with h | h
    · exact hdash (Option.some.inj (hhead.symm.trans (Text.head_of_startsWith hstarts h)))
    · exact harrow (Option.some.inj (hhead.symm.trans (Text.head_of_startsWith hstarts h)))
  unfold isBracket tellsScope tellsLevel
  simp only [Bool.or_eq_false_iff]
  exact ⟨⟨hstart (by decide), hstart (by decide)⟩,
    ⟨⟨hstart (by decide), hstart (by decide)⟩, hstart (by decide)⟩, hstart (by decide)⟩

end LogMessage

/-! ### Spans -/

/-- What is opened and closed, in order. -/
inductive Spans where
  | nil
  | scope (workflow : String) (succeeded : Bool) (inner rest : Spans)
  | level (l : Level) (inner rest : Spans)
  /-- A level that is opened, refused at the nesting limit, and never closed. -/
  | refused (l : Level) (rest : Spans)
  deriving DecidableEq, Repr

namespace Spans

def append : Spans → Spans → Spans
  | nil, s => s
  | scope workflow succeeded inner rest, s => scope workflow succeeded inner (append rest s)
  | level l inner rest, s => level l inner (append rest s)
  | refused l rest, s => refused l (append rest s)

instance : Append Spans := ⟨append⟩

@[simp] theorem nil_append (s : Spans) : nil ++ s = s := rfl

@[simp] theorem append_nil (s : Spans) : s ++ nil = s := by
  show s.append nil = s
  induction s with
  | nil => rfl
  | scope workflow succeeded inner rest _ ih => rw [append, ih]
  | level l inner rest _ ih => rw [append, ih]
  | refused l rest ih => rw [append, ih]

theorem append_assoc (s t u : Spans) : s ++ t ++ u = s ++ (t ++ u) := by
  show (s.append t).append u = s.append (t.append u)
  induction s with
  | nil => rfl
  | scope workflow succeeded inner rest _ ih => rw [append, append, append, ih]
  | level l inner rest _ ih => rw [append, append, append, ih]
  | refused l rest ih => rw [append, append, append, ih]

theorem append_eq_nil {s t : Spans} : s ++ t = nil ↔ s = nil ∧ t = nil := by
  constructor
  · intro h
    cases s with
    | nil => exact ⟨rfl, h⟩
    | scope | level | refused => cases h
  · rintro ⟨rfl, rfl⟩
    rfl

/-- The texts that tell of spans. -/
def texts : Spans → List String
  | nil => []
  | scope workflow succeeded inner rest =>
    LogMessage.scopeStarted workflow :: (inner.texts ++ LogMessage.scopeEnded workflow succeeded :: rest.texts)
  | level l inner rest => l.opening :: (inner.texts ++ l.closing :: rest.texts)
  | refused l rest => l.opening :: rest.texts

theorem texts_eq_nil {s : Spans} : s.texts = [] ↔ s = nil := by
  cases s <;> simp [texts]

@[simp] theorem texts_append (s t : Spans) : (s ++ t).texts = s.texts ++ t.texts := by
  show (s.append t).texts = _
  induction s with
  | nil => rfl
  | scope workflow succeeded inner rest _ ih => simp only [append, texts, ih, List.cons_append, List.append_assoc]
  | level l inner rest _ ih => simp only [append, texts, ih, List.cons_append, List.append_assoc]
  | refused l rest ih => simp only [append, texts, ih, List.cons_append]

/-- The scopes alone; those inside a level stand in its place. -/
def scopes : Spans → Spans
  | nil => nil
  | scope workflow succeeded inner rest => scope workflow succeeded inner.scopes rest.scopes
  | level _ inner rest => inner.scopes ++ rest.scopes
  | refused _ rest => rest.scopes

@[simp] theorem scopes_append (s t : Spans) : (s ++ t).scopes = s.scopes ++ t.scopes := by
  show (s.append t).scopes = _
  induction s with
  | nil => rfl
  | scope workflow succeeded inner rest _ ih => rw [append, scopes, scopes, ih]; rfl
  | level l inner rest _ ih => rw [append, scopes, scopes, ih, append_assoc]
  | refused l rest ih => exact ih

/-- No level is refused. -/
def complete : Spans → Bool
  | nil => true
  | scope _ _ inner rest => inner.complete && rest.complete
  | level _ inner rest => inner.complete && rest.complete
  | refused .. => false

theorem complete_append (s t : Spans) : (s ++ t).complete = (s.complete && t.complete) := by
  show (s.append t).complete = _
  induction s with
  | nil => rfl
  | scope workflow succeeded inner rest _ ih => simp only [append, complete, ih, Bool.and_assoc]
  | level l inner rest _ ih => simp only [append, complete, ih, Bool.and_assoc]
  | refused l rest ih => rfl

theorem complete_scopes (s : Spans) : s.scopes.complete = true := by
  induction s with
  | nil => rfl
  | scope workflow succeeded inner rest ihi ihr => rw [scopes, complete, ihi, ihr, Bool.and_self]
  | level l inner rest ihi ihr => rw [scopes, complete_append, ihi, ihr, Bool.and_self]
  | refused l rest ih => exact ih

/-- Among the texts of spans those that tell of scopes are the texts of the scopes. -/
theorem filter_texts (s : Spans) : s.texts.filter LogMessage.tellsScope = s.scopes.texts := by
  induction s with
  | nil => rfl
  | scope workflow succeeded inner rest ihi ihr =>
    rw [texts, List.filter_cons_of_pos (LogMessage.tellsScope_scopeStarted workflow), List.filter_append,
      List.filter_cons_of_pos (LogMessage.tellsScope_scopeEnded workflow succeeded), ihi, ihr, scopes, texts]
  | level l inner rest ihi ihr =>
    rw [texts, List.filter_cons_of_neg (Bool.eq_false_iff.1 (LogMessage.tellsScope_opening l)), List.filter_append,
      List.filter_cons_of_neg (Bool.eq_false_iff.1 (LogMessage.tellsScope_closing l)), ihi, ihr, scopes, texts_append]
  | refused l rest ih =>
    rw [texts, List.filter_cons_of_neg (Bool.eq_false_iff.1 (LogMessage.tellsScope_opening l)), ih, scopes]

end Spans

/-! ### Nesting -/

/-- What is opened is closed in the same order the other way round, each by its own text. -/
inductive Nested : List String → Prop where
  | nil : Nested []
  | scope (workflow : String) (succeeded : Bool) {inner rest : List String} (hinner : Nested inner)
    (hrest : Nested rest) :
    Nested (LogMessage.scopeStarted workflow :: (inner ++ LogMessage.scopeEnded workflow succeeded :: rest))
  | level (l : Level) {inner rest : List String} (hinner : Nested inner) (hrest : Nested rest) :
    Nested (l.opening :: (inner ++ l.closing :: rest))

theorem Spans.nested_texts {s : Spans} (h : s.complete = true) : Nested s.texts := by
  induction s with
  | nil => exact Nested.nil
  | scope workflow succeeded inner rest ihi ihr =>
    obtain ⟨hinner, hrest⟩ := Bool.and_eq_true_iff.1 h
    exact Nested.scope workflow succeeded (ihi hinner) (ihr hrest)
  | level l inner rest ihi ihr =>
    obtain ⟨hinner, hrest⟩ := Bool.and_eq_true_iff.1 h
    exact Nested.level l (ihi hinner) (ihr hrest)
  | refused l rest => cases h

theorem Spans.nested_scopes (s : Spans) : Nested s.scopes.texts := nested_texts s.complete_scopes

/-! ### Brackets on record -/

namespace Event

/-- The texts at the level of information, in order. -/
def infoTexts (events : List Event) : List String :=
  events.filterMap fun
    | .logged row => if row.level = .info then some row.message else none
    | _ => none

/-- The texts in a stretch of events that open or close something. -/
def brackets (events : List Event) : List String := (infoTexts events).filter LogMessage.isBracket

/-- The texts in a stretch of events that tell where scopes begin and end. -/
def scopeTexts (events : List Event) : List String := (infoTexts events).filter LogMessage.tellsScope

variable {es fs : List Event}

@[simp] theorem brackets_append (es fs : List Event) : brackets (es ++ fs) = brackets es ++ brackets fs := by
  rw [brackets, infoTexts, List.filterMap_append, List.filter_append]
  rfl

@[simp] theorem scopeTexts_append (es fs : List Event) : scopeTexts (es ++ fs) = scopeTexts es ++ scopeTexts fs := by
  rw [scopeTexts, infoTexts, List.filterMap_append, List.filter_append]
  rfl

theorem filter_brackets (es : List Event) : (brackets es).filter LogMessage.tellsScope = scopeTexts es := by
  rw [brackets, List.filter_filter, scopeTexts]
  congr 1
  funext text
  cases h : LogMessage.tellsScope text
  · rfl
  · rw [LogMessage.isBracket_of_tellsScope h]
    rfl

theorem infoTexts_logged (row : LogRow) :
    infoTexts [.logged row] = if row.level = .info then [row.message] else [] := by
  by_cases hlevel : row.level = .info
  · simp only [infoTexts, List.filterMap_cons, if_pos hlevel, List.filterMap_nil]
  · simp only [infoTexts, List.filterMap_cons, if_neg hlevel, List.filterMap_nil]

/-- A row at another level is no bracket. -/
theorem brackets_logged_of_ne {row : LogRow} (h : row.level ≠ .info) : brackets [.logged row] = [] := by
  rw [brackets, infoTexts_logged, if_neg h]
  rfl

theorem brackets_logged {row : LogRow} (hlevel : row.level = .info) (h : LogMessage.isBracket row.message = true) :
    brackets [.logged row] = [row.message] := by
  rw [brackets, infoTexts_logged, if_pos hlevel, List.filter_cons_of_pos h]
  rfl

/-- A bracket that a logger tells. -/
theorem brackets_row (logger : ScopedLogger) {message : String} (h : LogMessage.isBracket message = true) (traced : Bool) :
    brackets [.logged (logger.row .info message traced)] = [message] := brackets_logged rfl h

theorem brackets_logged_of_not {row : LogRow} (h : LogMessage.isBracket row.message = false) :
    brackets [.logged row] = [] := by
  by_cases hlevel : row.level = .info
  · rw [brackets, infoTexts_logged, if_pos hlevel, List.filter_cons_of_neg (Bool.eq_false_iff.1 h)]
    rfl
  · exact brackets_logged_of_ne hlevel

theorem scopeTexts_logged_of_ne {row : LogRow} (h : row.level ≠ .info) : scopeTexts [.logged row] = [] := by
  rw [scopeTexts, infoTexts_logged, if_neg h]
  rfl

theorem scopeTexts_logged_of_not {row : LogRow} (h : LogMessage.tellsScope row.message = false) :
    scopeTexts [.logged row] = [] := by
  by_cases hlevel : row.level = .info
  · rw [scopeTexts, infoTexts_logged, if_pos hlevel, List.filter_cons_of_neg (Bool.eq_false_iff.1 h)]
    rfl
  · exact scopeTexts_logged_of_ne hlevel

end Event
end FlowRules
