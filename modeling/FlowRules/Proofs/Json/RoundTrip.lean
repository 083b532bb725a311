import FlowRules.Proofs.Json.Numbers
import FlowRules.Proofs.Json.Texts

/-!
# Documents read back

A document that fits is written, and its text is read as the document (`Json.read_write`), up to numbers that are no
number, of which only one is read (`Json.canonical`).  It fits if its integers are not too long to be written, the
names in each object are distinct, and arrays and objects do not nest too deeply.
-/

namespace FlowRules.Json

variable {depth fuel : Nat} {cs : List Char} {j : Json} {items : List Json} {ms entries : List (String × Json)}
  {item : Cursor → Reads Json}

/-! ### Documents that fit -/

/-- Integers are not too long, the names in an object are distinct, and at most `depth` arrays and objects stand inside
each other. -/
inductive Fits : Nat → Json → Prop where
  | null {depth : Nat} : Fits depth .null
  | bool {depth : Nat} (b : Bool) : Fits depth (.bool b)
  | int {depth : Nat} {n : Int} (hn : Decimal.digitCount n.natAbs ≤ Numeral.maxDigits) : Fits depth (.int n)
  | float {depth : Nat} (x : Binary64) : Fits depth (.float x)
  | text {depth : Nat} (s : String) : Fits depth (.text s)
  | array {depth : Nat} {items : List Json} (hitems : ∀ j ∈ items, Fits depth j) : Fits (depth + 1) (.array items)
  | object {depth : Nat} {members : List (String × Json)} (hnames : (members.map Prod.fst).Nodup)
      (hmembers : ∀ m ∈ members, Fits depth m.2) : Fits (depth + 1) (.object members)

mutual

/-- A document in which one number stands for all that are no numbers. -/
def canonical : Json → Json
  | .float x => .float (canonicalFloat x)
  | .array items => .array (canonicalItems items)
  | .object members => .object (canonicalMembers members)
  | j => j
termination_by structural j => j

def canonicalItems : List Json → List Json
  | [] => []
  | j :: js => canonical j :: canonicalItems js
termination_by structural js => js

def canonicalMembers : List (String × Json) → List (String × Json)
  | [] => []
  | (k, j) :: ms => (k, canonical j) :: canonicalMembers ms
termination_by structural ms => ms

end

/-! ### Arrays -/

/-- A document is written, and read in front of what closes. -/
def ReadsBack (item : Cursor → Reads Json) (j : Json) : Prop :=
  ∃ cs, writeChars j = .ok cs ∧ Yields item cs j.canonical ∧ Begins cs

theorem closes_comma (rest : List Char) : Closes (',' :: rest) := by
  rintro c ⟨⟩
  exact .inl rfl

theorem closes_bracket (rest : List Char) : Closes (']' :: rest) := by
  rintro c ⟨⟩
  exact .inr (.inl rfl)

theorem closes_brace (rest : List Char) : Closes ('\x7d' :: rest) := by
  rintro c ⟨⟩
  exact .inr (.inr rfl)

section

variable {read : List Json} (hread : Yields item cs j) (i : Nat)

include hread

/-- The last element in writing is read up to the bracket behind it. -/
theorem elements_last (rest : List Char) :
    ∃ k, elements item read (fuel + 1) ⟨cs ++ ']' :: rest, i⟩ = .ok (.array (read.reverse ++ [j]), ⟨rest, k⟩) := by
  obtain ⟨k, hvalue⟩ := hread (']' :: rest) i (closes_bracket rest)
  refine ⟨k + 1, ?_⟩
  rw [elements]
  simp only [hvalue, skipBlanks_cons (d := ']') rfl, List.reverse_cons]
  rfl

/-- Another element in writing is read up to the next one. -/
theorem elements_more {body : List Char} (hbody : Begins body) :
    ∃ k, elements item read (fuel + 1) ⟨cs ++ ',' :: ' ' :: body, i⟩ = elements item (j :: read) fuel ⟨body, k⟩ := by
  obtain ⟨k, hvalue⟩ := hread (',' :: ' ' :: body) i (closes_comma _)
  refine ⟨k + 1 + 1, ?_⟩
  rw [elements]
  simp only [hvalue, skipBlanks_cons (d := ',') rfl, Cursor.drop, List.drop_succ_cons, List.drop_zero,
    skipBlanks_blank hbody]

end

/-- Elements in writing are read up to the bracket behind them. -/
theorem elements_writeItems (hitems : ∀ j ∈ items, ReadsBack item j) (hne : items ≠ []) :
    ∃ body, writeItems items = .ok body ∧ Begins body ∧ items.length ≤ body.length ∧
      ∀ read fuel rest i, items.length ≤ fuel → ∃ k, elements item read fuel ⟨body ++ ']' :: rest, i⟩ =
        .ok (.array (read.reverse ++ canonicalItems items), ⟨rest, k⟩) := by
  -- what has been read before stays general, as each element is put in front of it
  induction items with
  | nil => exact absurd rfl hne
  | cons j items ih =>
    obtain ⟨⟨cs, hcs, hread, hbegins⟩, hothers⟩ := List.forall_mem_cons.1 hitems
    rcases items with _ | ⟨j', items⟩
    · refine ⟨cs ++ [], by rw [writeItems, hcs]; rfl, hbegins.append [], ?_⟩
      rw [List.append_nil]
      refine ⟨hbegins.length_pos, fun read fuel rest i hfuel => ?_⟩
      obtain ⟨fuel, rfl⟩ := Nat.exists_eq_succ_of_ne_zero (Nat.ne_of_gt hfuel)
      exact elements_last hread i rest
    · obtain ⟨body, hbody, hfront, hlength, hrest⟩ := ih hothers (List.cons_ne_nil _ _)
      refine ⟨cs ++ ',' :: ' ' :: body, by rw [writeItems, hcs, hbody]; rfl, hbegins.append _, ?_, ?_⟩
      · have hpos := hbegins.length_pos
        simp only [List.length_append, List.length_cons] at hlength ⊢
        omega
      · intro read fuel rest i hfuel
        obtain ⟨fuel, rfl⟩ := Nat.exists_eq_succ_of_ne_zero (Nat.ne_zero_of_lt hfuel)
        obtain ⟨k, hk⟩ := @elements_more fuel _ _ item read hread i _ (hfront.append (']' :: rest))
        obtain ⟨l, hl⟩ := hrest (j.canonical :: read) fuel rest k (Nat.le_of_succ_le_succ hfuel)
        refine ⟨l, ?_⟩
        rw [hl, List.reverse_cons, List.append_assoc] at hk
        rw [List.append_assoc]
        exact hk

/-! ### Objects -/

/-- A new name is set behind the others. -/
theorem setMember_eq_append {key : String} {v : Json} (h : key ∉ entries.map Prod.fst) :
    setMember key v entries = entries ++ [(key, v)] := by
  induction entries with
  | nil => rfl
  | cons e entries ih =>
    rw [List.map_cons, List.mem_cons, not_or] at h
    rw [setMember, if_neg (Ne.symm h.1), ih h.2]
    rfl

theorem begins_writeText (s : String) (rest : List Char) : Begins (writeText s ++ rest) :=
  ⟨'"', _, rfl, .inl (by decide)⟩

section

variable {key : String} (hread : Yields item cs j) (hbegins : Begins cs) (i : Nat)

include hread hbegins

/-- The last member in writing is read up to the brace behind it. -/
theorem members_last (rest : List Char) :
    ∃ k, members item entries (fuel + 1) ⟨writeText key ++ ':' :: ' ' :: (cs ++ '\x7d' :: rest), i⟩ =
      .ok (.object (setMember key j entries), ⟨rest, k⟩) := by
  obtain ⟨k, hkey⟩ := readText_writeText key (':' :: ' ' :: (cs ++ '\x7d' :: rest)) i
  obtain ⟨l, hvalue⟩ := hread ('\x7d' :: rest) (k + 1 + 1) (closes_brace rest)
  obtain ⟨ds, hds⟩ : ∃ ds, writeText key ++ ':' :: ' ' :: (cs ++ '\x7d' :: rest) = '"' :: ds := ⟨_, rfl⟩
  refine ⟨l + 1, ?_⟩
  rw [hds] at hkey ⊢
  rw [members]
  simp only [hkey, skipBlanks_cons (d := ':') rfl, Cursor.drop, List.drop_succ_cons,
    List.drop_zero, skipBlanks_blank (hbegins.append _), hvalue, skipBlanks_cons (d := '\x7d') rfl]

/-- Another member in writing is read up to the next one. -/
theorem members_more {body : List Char} (hbody : Begins body) :
    ∃ k, members item entries (fuel + 1) ⟨writeText key ++ ':' :: ' ' :: (cs ++ ',' :: ' ' :: body), i⟩ =
      members item (setMember key j entries) fuel ⟨body, k⟩ := by
  obtain ⟨k, hkey⟩ := readText_writeText key (':' :: ' ' :: (cs ++ ',' :: ' ' :: body)) i
  obtain ⟨l, hvalue⟩ := hread (',' :: ' ' :: body) (k + 1 + 1) (closes_comma _)
  obtain ⟨ds, hds⟩ : ∃ ds, writeText key ++ ':' :: ' ' :: (cs ++ ',' :: ' ' :: body) = '"' :: ds := ⟨_, rfl⟩
  refine ⟨l + 1 + 1, ?_⟩
  rw [hds] at hkey ⊢
  rw [members]
  simp only [hkey, skipBlanks_cons (d := ':') rfl, Cursor.drop, List.drop_succ_cons,
    List.drop_zero, skipBlanks_blank (hbegins.append _), hvalue, skipBlanks_cons (d := ',') rfl,
    skipBlanks_blank hbody]

end

theorem writeMembers_cons (key : String) {tail : List Char} (hcs : writeChars j = .ok cs)
    (htail : writeMembers ms = .ok tail) : writeMembers ((key, j) :: ms) =
      .ok (writeText key ++ ": ".toList ++ cs ++ (if ms.isEmpty then [] else ", ".toList ++ tail)) := by
  rw [writeMembers, hcs, htail]
  rfl

/-- Members in writing are read up to the brace behind them, if their names are distinct. -/
theorem members_writeMembers (hmembers : ∀ m ∈ ms, ReadsBack item m.2) (hne : ms ≠ [])
    (hnames : (ms.map Prod.fst).Nodup) :
    ∃ body, writeMembers ms = .ok body ∧ Begins body ∧ ms.length ≤ body.length ∧
      ∀ read fuel rest i, ms.length ≤ fuel → (∀ m ∈ ms, m.1 ∉ read.map Prod.fst) →
        ∃ k, members item read fuel ⟨body ++ '\x7d' :: rest, i⟩ =
          .ok (.object (read ++ canonicalMembers ms), ⟨rest, k⟩) := by
  -- each name that is read is new to the ones before it, so its member is set behind theirs
  induction ms with
  | nil => exact absurd rfl hne
  | cons m ms ih =>
    obtain ⟨key, j⟩ := m
    obtain ⟨⟨cs, hcs, hread, hbegins⟩, hothers⟩ := List.forall_mem_cons.1 hmembers
    rw [List.map_cons, List.nodup_cons] at hnames
    rcases ms with _ | ⟨m, ms⟩
    · refine ⟨writeText key ++ ':' :: ' ' :: (cs ++ []), ?_, begins_writeText key _, ?_, ?_⟩
      · rw [writeMembers_cons key hcs rfl]
        simp
      · exact (begins_writeText key _).length_pos
      · intro read fuel rest i hfuel hnew
        obtain ⟨fuel, rfl⟩ := Nat.exists_eq_succ_of_ne_zero (Nat.ne_of_gt hfuel)
        obtain ⟨k, hk⟩ := @members_last fuel _ _ read item key hread hbegins i rest
        refine ⟨k, ?_⟩
        rw [setMember_eq_append (hnew _ List.mem_cons_self)] at hk
        simpa [canonicalMembers] using hk
    · obtain ⟨body, hbody, hfront, hlength, hrest⟩ := ih hothers (List.cons_ne_nil _ _) hnames.2
      refine ⟨writeText key ++ ':' :: ' ' :: (cs ++ ',' :: ' ' :: body), ?_, begins_writeText key _, ?_, ?_⟩
      · rw [writeMembers_cons key hcs hbody]
        simp
      · have hpos := hbegins.length_pos
        simp only [List.length_append, List.length_cons] at hlength ⊢
        omega
      · intro read fuel rest i hfuel hnew
        obtain ⟨fuel, rfl⟩ := Nat.exists_eq_succ_of_ne_zero (Nat.ne_zero_of_lt hfuel)
        obtain ⟨k, hk⟩ := @members_more fuel _ _ read item key hread hbegins i _ (hfront.append ('\x7d' :: rest))
        rw [setMember_eq_append (hnew _ List.mem_cons_self)] at hk
        have hleft : ∀ m' ∈ m :: ms, m'.1 ∉ (read ++ [(key, j.canonical)]).map Prod.fst := by
          intro m' hm' hmem
          rw [List.map_append, List.mem_append] at hmem
          rcases hmem with hread | hkey
          · exact hnew m' (List.mem_cons_of_mem _ hm') hread
          · rw [List.map_singleton, List.mem_singleton] at hkey
            exact hnames.1 (hkey ▸ List.mem_map_of_mem hm')
        obtain ⟨l, hl⟩ := hrest (read ++ [(key, j.canonical)]) fuel rest k (Nat.le_of_succ_le_succ hfuel) hleft
        refine ⟨l, ?_⟩
        rw [hl] at hk
        simpa [canonicalMembers] using hk

/-! ### Documents -/

theorem readsBack_of_yields (hcs : writeChars j = .ok cs) (hread : Yields (readValue depth) cs j.canonical) :
    ReadsBack (readValue depth) j := by
  obtain ⟨k, hk⟩ := hread [] 0 nofun
  rw [List.append_nil] at hk
  exact ⟨cs, hcs, hread, begins_of_readValue hk⟩

theorem readValue_text (s : String) (depth : Nat) : Yields (readValue depth) (writeText s) (.text s) := by
  intro rest i _
  obtain ⟨k, hk⟩ := readText_writeText s rest i
  obtain ⟨ds, hds⟩ : ∃ ds, writeText s ++ rest = '"' :: ds := ⟨_, rfl⟩
  refine ⟨k, ?_⟩
  rw [hds] at hk ⊢
  cases depth <;>
  · rw [readValue]
    simp only [hk]
    rfl

theorem readValue_elements (h : Begins cs) (i : Nat) :
    readValue (depth + 1) ⟨'[' :: cs, i⟩ = elements (readValue depth) [] (cs.length + 1) ⟨cs, i + 1⟩ := by
  obtain ⟨d, ds, rfl, -, hblank, hd, -⟩ := h.head
  rw [readValue]
  simp only [Cursor.drop, List.drop_succ_cons, List.drop_zero, skipBlanks_cons hblank]
  split
  · next hclose => exact absurd (List.cons.inj hclose).1 hd
  · rfl

theorem readValue_members (h : Begins cs) (i : Nat) :
    readValue (depth + 1) ⟨'\x7b' :: cs, i⟩ = members (readValue depth) [] (cs.length + 1) ⟨cs, i + 1⟩ := by
  obtain ⟨d, ds, rfl, -, hblank, -, hd, -⟩ := h.head
  rw [readValue]
  simp only [Cursor.drop, List.drop_succ_cons, List.drop_zero, skipBlanks_cons hblank]
  split
  · next hclose => exact absurd (List.cons.inj hclose).1 hd
  · rfl

/-- A document that fits is written and read back. -/
theorem Fits.readsBack (h : Fits depth j) : ReadsBack (readValue depth) j := by
  induction h with
  | null => exact readsBack_of_yields rfl (readValue_word (k := 0) rfl _)
  | bool b =>
    cases b with
    | true => exact readsBack_of_yields rfl (readValue_word (k := 1) rfl _)
    | false => exact readsBack_of_yields rfl (readValue_word (k := 2) rfl _)
  | @int depth n hn =>
    refine readsBack_of_yields ?_ (readValue_int hn depth)
    rw [writeChars, Numeral.write_eq_text hn]
    rfl
  | float x => exact readsBack_of_yields rfl (readValue_float x _)
  | text s => exact readsBack_of_yields rfl (readValue_text s _)
  | @array depth items hitems ih =>
    rcases items with _ | ⟨j, items⟩
    · exact @readsBack_of_yields _ ['[', ']'] (.array []) rfl fun rest i _ => ⟨i + 1 + 1, rfl⟩
    · obtain ⟨body, hbody, hfront, hlength, hrest⟩ := elements_writeItems ih (List.cons_ne_nil _ _)
      refine @readsBack_of_yields _ ('[' :: body ++ [']']) _ (by rw [writeChars, hbody]; rfl) fun rest i _ => ?_
      obtain ⟨k, hk⟩ := hrest [] ((body ++ ']' :: rest).length + 1) rest (i + 1)
        (by simp only [List.length_append] at hlength ⊢; omega)
      refine ⟨k, ?_⟩
      rw [List.append_assoc]
      exact (readValue_elements (hfront.append _) i).trans hk
  | @object depth members hnames hmembers ih =>
    rcases members with _ | ⟨m, members⟩
    · exact @readsBack_of_yields _ ['\x7b', '\x7d'] (.object []) rfl fun rest i _ => ⟨i + 1 + 1, rfl⟩
    · obtain ⟨body, hbody, hfront, hlength, hrest⟩ := members_writeMembers ih (List.cons_ne_nil _ _) hnames
      refine @readsBack_of_yields _ ('\x7b' :: body ++ ['\x7d']) _ (by rw [writeChars, hbody]; rfl) fun rest i _ => ?_
      obtain ⟨k, hk⟩ := hrest [] ((body ++ '\x7d' :: rest).length + 1) rest (i + 1)
        (by simp only [List.length_append] at hlength ⊢; omega) (fun _ _ => List.not_mem_nil)
      refine ⟨k, ?_⟩
      rw [List.append_assoc]
      exact (readValue_members (hfront.append _) i).trans hk

/-- The text of a document that fits is read as the document. -/
theorem read_write (h : Fits maxDepth j) : ∃ text, write j = .ok text ∧ read text = .ok j.canonical := by
  obtain ⟨cs, hcs, hread, hbegins⟩ := h.readsBack
  obtain ⟨k, hk⟩ := hread [] 0 nofun
  obtain ⟨d, ds, hds, -, -, -, -, hmark⟩ := hbegins.head
  refine ⟨String.ofList cs, by rw [write, hcs]; rfl, ?_⟩
  rw [List.append_nil] at hk
  unfold read
  rw [String.toList_ofList]
  dsimp only
  split
  · next hbom => exact absurd (List.cons.inj hds).1.symm hmark
  · rw [skipBlanks_begins hbegins, hk]
    rfl

/-- The text of a document, empty if it cannot be written. -/
def written (j : Json) : String := (write j).toOption.getD ""

theorem read_written (h : Fits maxDepth j) : read j.written = .ok j.canonical := by
  obtain ⟨text, hwrite, hread⟩ := read_write h
  rw [written, hwrite]
  exact hread

end FlowRules.Json
