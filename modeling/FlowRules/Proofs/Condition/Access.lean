import FlowRules.Condition.Eval
import FlowRules.Proofs.Condition.Refusal
import FlowRules.Proofs.Value.Path
import FlowRules.Proofs.Value.Source

/-!
# Conditions and field paths read the same

A condition goes through the fields and items of a value one after the other, and goes on with null where something is
missing.  A field path is split at its points and stops there.  Both come to the same value, or the same fault
(`Expr.access_eq_field`), as long as places are not applied to dictionaries, where a condition looks up the integer and
a path its text.  Bytes that can be changed are an oversight: a condition finds them by their places, and a path does not
(`Expr.byteArray_differs`).
-/

namespace FlowRules

/-! ### The text of an access -/

namespace Segment

/-- The expression for a place; a negative one is a change of sign. -/
def placeTree (n : Int) : Expr :=
  if n < 0 then .negate (.literal (.int n.natAbs)) else .literal (.int n.natAbs)

def placeWords (n : Int) : List Word :=
  (if n < 0 then [.operator "-"] else []) ++ [.number (Text.natDigits n.natAbs)]

/-- The part of a value that a segment names, as an expression. -/
def access (target : Expr) : Segment → Expr
  | name s => .attribute target s
  | place n => .index target (placeTree n)

/-- The words behind those of the target. -/
def words : Segment → List Word
  | name s => [.operator ".", .name s]
  | place n => .operator "[" :: (placeWords n ++ [.operator "]"])

/-- The characters behind those of the target: names behind points, places in brackets. -/
def chars : Segment → List Char
  | name s => '.' :: s.toList
  | place n => '[' :: ((Numeral.text n).toList ++ [']'])

end Segment

namespace Expr

/-- The expression that goes through segments from the flow object on. -/
def access (segments : List Segment) : Expr := segments.foldl Segment.access (.root .flow)

/-- Its text. -/
def accessText (segments : List Segment) : String :=
  String.ofList ("flow".toList ++ segments.flatMap Segment.chars)

theorem toList_accessText (segments : List Segment) :
    (accessText segments).toList = "flow".toList ++ segments.flatMap Segment.chars := String.toList_ofList

end Expr

/-! ### Parsing an access -/

section

open Text

variable {s : Segment} {segments : List Segment} {ws : List Word} {rest : List Char} {e : Expr}

/-- Nothing stands behind, or another segment. -/
def Segment.Ends (rest : List Char) : Prop := ∀ c ∈ rest.head?, c = '.' ∨ c = '['

theorem Segment.ends_flatMap (segments : List Segment) : Ends (segments.flatMap chars) := by
  rcases segments with _ | ⟨_ | _, segments⟩
  · exact nofun
  · intro c hc
    cases hc
    exact .inl rfl
  · intro c hc
    cases hc
    exact .inr rfl

theorem Segment.Ends.behindName (h : Ends rest) : ∀ c ∈ rest.head?, isNameChar c = false := by
  intro c hc
  rcases h c hc with rfl | rfl <;> rfl

theorem Segment.laid_place (n : Int) (h : Word.Laid rest ws) :
    Word.Laid (chars (place n) ++ rest) (words (place n) ++ ws) := by
  have hclose : Word.Laid (']' :: rest) (.operator "]" :: ws) := .mark (by decide) h
  have hdigits : Word.Laid (natDigits n.natAbs ++ ']' :: rest)
      (.number (natDigits n.natAbs) :: .operator "]" :: ws) := by
    refine .number (.whole (Word.isDigits_natDigits _)) (fun c hc => ?_) hclose
    cases hc
    decide
  have hplace : Word.Laid ((Numeral.text n).toList ++ ']' :: rest) (placeWords n ++ .operator "]" :: ws) := by
    rw [Numeral.toList_text, Numeral.signed, placeWords]
    by_cases hneg : n < 0
    · simp only [hneg, decide_true, if_true]
      exact .mark (by decide) hdigits
    · simp only [hneg, decide_false, if_false, Bool.false_eq_true]
      exact hdigits
  rw [chars, words, List.cons_append, List.cons_append, List.append_assoc, List.append_assoc]
  exact .mark (by decide) hplace

theorem Segment.laid (hs : s.Valid) (hrest : Ends rest) (h : Word.Laid rest ws) :
    Word.Laid (s.chars ++ rest) (s.words ++ ws) := by
  cases s with
  | name s => exact .mark (by decide) (.name hs.1 hs.2 hrest.behindName h)
  | place n => exact laid_place n h

theorem Segment.laid_all (h : ∀ s ∈ segments, s.Valid) :
    Word.Laid (segments.flatMap chars) (segments.flatMap words) := by
  induction segments with
  | nil => exact .nil
  | cons s segments ih =>
    obtain ⟨hs, hsegments⟩ := List.forall_mem_cons.1 h
    exact laid hs (ends_flatMap segments) (ih hsegments)

theorem Segment.derives_place {n : Int} (hn : Decimal.digitCount n.natAbs ≤ Numeral.maxDigits) :
    Grammar.Derives .expression (placeWords n) (placeTree n) := by
  have hnumber : Grammar.Derives .operand [.number (natDigits n.natAbs)] (.literal (.int n.natAbs)) :=
    .member (.atom (.number (Word.number_natDigits hn)))
  rw [placeWords, placeTree]
  split
  · exact .ofComparison (.operand (.negate hnumber))
  · exact .ofComparison (.operand hnumber)

theorem Segment.derives (hs : s.Valid) (h : Grammar.Derives .member ws e) :
    Grammar.Derives .member (ws ++ s.words) (s.access e) := by
  cases s with
  | name s => exact .field h (.inl rfl)
  | place n => exact .item h (derives_place hs)

theorem Segment.derives_all (hsegments : ∀ s ∈ segments, s.Valid) (h : Grammar.Derives .member ws e) :
    Grammar.Derives .member (ws ++ segments.flatMap words) (segments.foldl access e) := by
  induction segments generalizing ws e with
  | nil =>
    rw [List.flatMap_nil, List.append_nil]
    exact h
  | cons s segments ih =>
    obtain ⟨hs, hrest⟩ := List.forall_mem_cons.1 hsegments
    rw [List.flatMap_cons, ← List.append_assoc]
    exact ih hrest (derives hs h)

theorem isName_flow : IsName "flow".toList := isName_of_all rfl rfl

theorem Expr.laid_accessText (h : Word.Laid (segments.flatMap Segment.chars) ws) :
    Word.Laid (accessText segments).toList (.name "flow" :: ws) := by
  rw [toList_accessText]
  exact .name isName_flow (by decide) (Segment.ends_flatMap segments).behindName h

/-- The text of an access is parsed as the access. -/
theorem Expr.ofText_access (h : ∀ s ∈ segments, s.Valid) :
    Expr.ofText (accessText segments) = .ok (access segments) := by
  have hroot : Grammar.Derives .member [.name "flow"] (.root .flow) := .atom (.root .flow)
  exact (laid_accessText (Segment.laid_all h)).parsed (.ofMember (Segment.derives_all h hroot))

end

/-! ### Evaluating an access -/

/-- A place is applied to what is no dictionary, and is not the place of a byte that can be changed. -/
def Segment.IsPlaceIn (v : Value) (n : Int) : Prop :=
  (∀ id entries, v ≠ .dict id entries) ∧ ∀ bs, v = .byteArray bs → Value.itemAt? (Expr.byteItems bs) n = none

/-- Going through segments from a value on, no place is applied to a dictionary, and none is that of a byte that can be
changed. -/
def Segment.Applies : Value → List Segment → Prop
  | _, [] => True
  | v, s :: segments =>
    (∀ n, s = place n → IsPlaceIn v n) ∧ ∀ w, v.segment? s.text = .ok (some w) → Applies w segments

namespace Expr

variable {env : Environment} {cs : Cursors} {v : Value} {e : Expr} {s : Segment} {segments : List Segment} {f : Fault}
  {n : Int}

/-- A field by a name that is one segment of a path. -/
theorem fieldOf_single {name : String} (hempty : name ≠ "") (hpoint : '.' ∉ name.toList) (v : Value) :
    fieldOf v name = Value.orNull (v.segment? name) := by
  rw [fieldOf, Value.field_single hempty hpoint]
  cases v.segment? name <;> rfl

theorem fieldOf_segment (v : Value) (hs : s.Valid) : fieldOf v s.text = Value.orNull (v.segment? s.text) :=
  fieldOf_single (Segment.text_ne_empty hs) (Segment.point_notMem_text hs) v

/-- A path finds nothing by places among bytes that can be changed. -/
theorem segment_byteArray (bs : List UInt8) (n : Int) :
    (Value.byteArray bs).segment? (Numeral.text n) = .ok none := by
  have hoperations : ∀ name ∈ byteArrayOperations, Value.isPlace name = false := by decide +kernel
  have hname : Numeral.text n ∉ byteArrayOperations := fun h =>
    absurd ((hoperations _ h).symm.trans (Value.isPlace_text n)) Bool.false_ne_true
  have hattribute : (Value.byteArray bs).present? (Numeral.text n) = .ok none :=
    congrArg Except.ok (Atom.operation_of_notMem hname)
  show (Value.byteArray bs).namedField? (Numeral.text n) = .ok none
  rw [Value.namedField?, hattribute]
  split <;> rfl

/-- An integer as a key names what it names as a segment of a path. -/
theorem itemOf_place (hn : Decimal.digitCount n.natAbs ≤ Numeral.maxDigits) (hv : Segment.IsPlaceIn v n) :
    itemOf v (.int n) = Value.orNull (v.segment? (Numeral.text n)) := by
  have hfield : fieldOf v (Numeral.text n) = Value.orNull (v.segment? (Numeral.text n)) :=
    @fieldOf_segment (.place n) v hn
  have htext : (Value.int n).textForm = .ok (Numeral.text n) := writeInt_eq_text hn
  unfold itemOf
  split
  · rfl
  · exact absurd rfl (hv.1 _ _)
  · split
    · next items place hitems hplace =>
      obtain rfl : n = place := Option.some.inj hplace
      unfold placedItems? at hitems
      split at hitems
      · cases hitems
        rw [hv.2 _ rfl, segment_byteArray]
        rfl
      · rw [Value.segment_place hitems hn]
        rfl
    · rw [htext]
      exact hfield

theorem eval_placeTree (env : Environment) (n : Int) (cs : Cursors) :
    (eval env (Segment.placeTree n)).run cs = (.ok (.int n), cs) := by
  rw [Segment.placeTree]
  split
  · show (Except.ok (Value.int (-(n.natAbs : Int))), cs) = _
    rw [show -(n.natAbs : Int) = n by omega]
  · show (Except.ok (Value.int n.natAbs), cs) = _
    rw [show (n.natAbs : Int) = n by omega]

theorem eval_access (he : (eval env e).run cs = (.ok v, cs)) (hs : s.Valid)
    (hv : ∀ n, s = .place n → Segment.IsPlaceIn v n) :
    (eval env (s.access e)).run cs = (Value.orNull (v.segment? s.text), cs) := by
  cases s with
  | name s =>
    rw [Segment.access, eval, Eval.run_bind_ok he, Eval.run_ofExcept]
    exact congrArg (·, cs) (fieldOf_segment v hs)
  | place n =>
    rw [Segment.access, eval, Eval.run_bind_ok he, Eval.run_bind_ok (eval_placeTree env n cs), Eval.run_ofExcept]
    exact congrArg (·, cs) (itemOf_place hs (hv n rfl))

/-- Where the target raises a fault, so does the access. -/
theorem eval_access_fault (he : (eval env e).run cs = (.error f, cs)) (segments : List Segment) :
    (eval env (segments.foldl Segment.access e)).run cs = (.error f, cs) := by
  induction segments generalizing e with
  | nil => exact he
  | cons s segments ih =>
    apply ih
    cases s <;> rw [Segment.access, eval, Eval.run_bind_fault he]

theorem applies_null (segments : List Segment) : Segment.Applies .null segments := by
  cases segments with
  | nil => trivial
  | cons s segments => exact ⟨fun _ _ => ⟨nofun, nofun⟩, nofun⟩

theorem eval_access_all (he : (eval env e).run cs = (.ok v, cs)) (hsegments : ∀ s ∈ segments, s.Valid)
    (hv : Segment.Applies v segments) :
    (eval env (segments.foldl Segment.access e)).run cs =
      (Value.orNull (v.follow? (segments.map Segment.text)), cs) := by
  induction segments generalizing e v with
  | nil => exact he
  | cons s segments ih =>
    obtain ⟨hs, hrest⟩ := List.forall_mem_cons.1 hsegments
    obtain ⟨hfirst, happlies⟩ := hv
    have hstep := eval_access he hs hfirst
    rw [List.foldl_cons, List.map_cons, Value.follow?]
    rcases hsegment : v.segment? s.text with f | _ | w <;> rw [hsegment] at hstep
    · exact eval_access_fault hstep segments
    · -- the condition goes on with null, in which nothing is found
      have hnull := @ih .null _ hstep hrest (applies_null segments)
      rw [Value.follow_null] at hnull
      exact hnull
    · exact ih hstep hrest (happlies w hsegment)

/-- A condition that goes through fields and items of the flow object has the value that the field path with the same
segments has, null where something is missing, and raises the same faults. -/
theorem access_eq_field (env : Environment) {segments : List Segment} (cs : Cursors) (hne : segments ≠ [])
    (hsegments : ∀ s ∈ segments, s.Valid) (hflow : Segment.Applies env.flow segments) :
    ∃ tree, ofText (accessText segments) = .ok tree ∧
      (eval env tree).run cs = (env.flow.field (Segment.path segments) (some .null), cs) := by
  refine ⟨access segments, ofText_access hsegments, ?_⟩
  have hroot : (eval env (.root .flow)).run cs = (.ok env.flow, cs) := rfl
  rw [access, eval_access_all hroot hsegments hflow, Value.field_orNull, Value.field_path env.flow hne hsegments]

private def order : Value := .dict none [(.text "total", .int 5)]

private def orders : Value := .list none [.null, order]

private def customer : Value := .dict none [(.text "Orders", orders)]

private def total : List Segment := [.name "orders", .place (-1), .name "total"]

/-- The total of a customer's last order. -/
theorem access_eq_field_total :
    total ≠ [] ∧ (∀ s ∈ total, s.Valid) ∧ Segment.Applies customer total ∧
      accessText total = "flow.orders[-1].total" ∧ Segment.path total = "orders.-1.total" ∧
      ∃ tree, ofText (accessText total) = .ok tree ∧
        (eval ⟨customer, .null, ""⟩ tree).run [] = (.ok (.int 5), []) := by
  have hne : total ≠ [] := List.cons_ne_nil _ _
  have hvalid : ∀ s ∈ total, s.Valid := by
    have hname {s : String} (hs : Text.IsName s.toList) (hsmall : Token.small s.toList ∉ Token.keywords) :
        (Segment.name s).Valid := ⟨hs, hsmall⟩
    have hplace : (Segment.place (-1)).Valid := by
      show Decimal.digitCount 1 ≤ Numeral.maxDigits
      decide
    exact List.forall_mem_cons.2 ⟨hname (Text.isName_of_all rfl rfl) (by decide), List.forall_mem_cons.2
      ⟨hplace, List.forall_mem_singleton.2 (hname (Text.isName_of_all rfl rfl) (by decide))⟩⟩
  have horders : customer.segment? "orders" = .ok (some orders) := rfl
  have horder : orders.segment? (Numeral.text (-1)) = .ok (some order) := by
    have hitems : orders.sequenceItems? = some [.null, order] := rfl
    rw [Value.segment_place hitems (hvalid (.place (-1)) (by simp [total]))]
    rfl
  have htotal : order.segment? "total" = .ok (some (.int 5)) := rfl
  have happlies : Segment.Applies customer total := by
    refine ⟨nofun, fun v hv => ?_⟩
    obtain rfl : orders = v := Option.some.inj (Except.ok.inj (horders.symm.trans hv))
    refine ⟨fun _ _ => ⟨nofun, nofun⟩, fun v hv => ?_⟩
    obtain rfl : order = v := Option.some.inj (Except.ok.inj (horder.symm.trans hv))
    exact ⟨nofun, fun v hv => trivial⟩
  have hfield : customer.field (Segment.path total) (some .null) = .ok (.int 5) := by
    rw [Value.field, Value.field_path customer hne hvalid]
    show (customer.follow? ["orders", Numeral.text (-1), "total"] >>= _) = _
    rw [Value.follow_cons horders, Value.follow_cons horder, Value.follow_cons htotal]
    rfl
  obtain ⟨tree, htree, heval⟩ := access_eq_field ⟨customer, .null, ""⟩ [] hne hvalid happlies
  exact ⟨hne, hvalid, happlies, rfl, rfl, tree, htree, hfield ▸ heval⟩

/-! ### Bytes that can be changed -/

/-- By the place of a byte that can be changed a condition finds the byte, and a path finds nothing. -/
theorem byteArray_differs (env : Environment) (cs : Cursors) {bs : List UInt8} {n : Nat} {b : UInt8}
    (hn : (Segment.place n).Valid) (hflow : env.flow = .byteArray bs) (hb : bs[n]? = some b) :
    ∃ tree, ofText (accessText [.place n]) = .ok tree ∧ (eval env tree).run cs = (.ok (.int b.toNat), cs) ∧
      env.flow.field (Segment.path [.place n]) (some .null) = .ok .null := by
  have hvalid : ∀ s ∈ [Segment.place n], s.Valid := List.forall_mem_singleton.2 hn
  refine ⟨access [.place n], ofText_access hvalid, ?_, ?_⟩
  · have hroot : (eval env (.root .flow)).run cs = (.ok env.flow, cs) := rfl
    have hitem : Value.itemAt? (byteItems bs) n = some (.int b.toNat) := by
      rw [Value.itemAt?, if_pos (Int.natCast_nonneg n), Int.toNat_natCast, byteItems, List.getElem?_map, hb]
      rfl
    have hfound : itemOf env.flow (.int n) = .ok (.int b.toNat) := by
      rw [hflow]
      show Except.ok ((Value.itemAt? (byteItems bs) n).getD .null) = _
      rw [hitem]
      rfl
    show (eval env (.index (.root .flow) (Segment.placeTree n))).run cs = _
    rw [eval, Eval.run_bind_ok hroot, Eval.run_bind_ok (eval_placeTree env n cs), Eval.run_ofExcept, hfound]
  · rw [Value.field_orNull, Value.field_path env.flow (List.cons_ne_nil _ _) hvalid, hflow, List.map_singleton,
      Value.follow_singleton]
    exact congrArg Value.orNull (segment_byteArray bs n)

/-! ### Places that are too long -/

/-- An access by a place with more digits than are read cannot be written as a condition. -/
theorem ofText_longPlace {n : Nat} (hn : Numeral.maxDigits < (Text.natDigits n).length) :
    ofText (accessText [.place n]) = .error (.value (.numeral (.tooLongToRead (Text.natDigits n).length))) := by
  have hlaid : Word.Laid (accessText [.place n]).toList
      [.name "flow", .operator "[", .number (Text.natDigits n), .operator "]"] := by
    refine laid_accessText ?_
    rw [List.flatMap_singleton, ← List.append_nil (Segment.chars _)]
    exact Segment.laid_place n .nil
  have hnumber := Parser.number_whole (Word.isDigits_natDigits n)
  rw [if_pos hn] at hnumber
  refine Grammar.ofText_unreadable hlaid fun ts hts => ?_
  simp only [List.cons_append, List.nil_append, Grammar.map_word_eq_cons, List.map_eq_nil_iff] at hts
  obtain ⟨p, _, rfl, p', _, rfl, q, _, rfl, q', _, rfl, r, _, rfl, rfl⟩ := hts
  unfold ofTokens
  simp [Parser.orExpr, Parser.andExpr, Parser.notExpr, Parser.comparison, Parser.operand, Parser.atom, Parser.suffixes,
    Parser.isNot, Parser.isAt, Parser.front, Word.name, Word.operator, Word.number, Root.ofName?, Root.all, Root.name,
    hnumber, bind, Except.bind]

/-- With a place of 4301 digits there is a field path, but no condition. -/
theorem longPlace_differs :
    ofText (accessText [.place (10 ^ 4300 : Nat)]) = .error (.value (.numeral (.tooLongToRead 4301))) ∧
      Value.null.field (Segment.path [.place (10 ^ 4300 : Nat)]) (some .null) = .ok .null := by
  have hlength : (Text.natDigits (10 ^ 4300)).length = 4301 := Text.length_natDigits_pow 4300
  generalize 10 ^ 4300 = n at *
  constructor
  · have htext := @ofText_longPlace n (by rw [hlength]; decide)
    rwa [hlength] at htext
  · exact Value.field_null _

end Expr
end FlowRules
