import FlowRules.Proofs.Check.Reading
import FlowRules.Proofs.Condition.Access
import FlowRules.Proofs.Condition.Coverage

/-!
# Keys behind points and in brackets

A key of a dictionary that has the form of a name can be written behind a point or as a text in brackets.  In brackets
it is looked up as it is.  Behind a point it is a token, and a token that is a keyword but for letter case has lost its
capitals, so its small form is looked up.  That may be another key of the dictionary.  Main statement: both conditions
have the value at the key, where for a keyword that is so exactly if the key that is found for its small form has the
same value (`Expr.present_key_iff`).
-/

namespace FlowRules

open Text

/-! ### Names in a dictionary -/

namespace Value

variable {id : Identity} {entries : List (Value × Value)} {name k : String} {key w : Value}

/-- The key at which a dictionary finds a name: the name itself if it is a key, and else the first text among the keys
that is the name but for letter case. -/
def keyFor? (entries : List (Value × Value)) (name : String) : Option String :=
  match lookup (.text name) entries with
  | .ok (some _) => some name
  | _ => (fieldNames (.dict none entries)).find? (sameName · name)

theorem equals_of_keyText (h : key.keyText? = some name) : equals (.text name) key = .ok true := by
  have hsame : (Atom.text name).equals (.text name) = .ok true := by
    show Except.ok (Atom.text name == .text name) = _
    rw [beq_self_eq_true]
  unfold keyText? at h
  split at h
  · cases h
    exact hsame
  · next e own s =>
    split at h
    · next hmixin =>
      cases h
      rw [equals, atom?, hmixin]
      exact hsame
    · cases h
  · cases h

theorem findEntry_of_mem {test : Value → Except Fault Bool} (htest : ∀ u, ∃ b, test u = .ok b)
    (hmem : (key, w) ∈ entries) (hkey : test key = .ok true) : ∃ v, findEntry test entries = .ok (some v) := by
  induction entries with
  | nil => cases hmem
  | cons e entries ih =>
    obtain ⟨u, v⟩ := e
    obtain ⟨b, hb⟩ := htest u
    rw [findEntry, hb]
    cases b with
    | true => exact ⟨v, rfl⟩
    | false =>
      rcases List.mem_cons.1 hmem with heq | hmore
      · cases heq
        cases hb.symm.trans hkey
      · exact ih hmore

/-- There is a value at every text that is a key. -/
theorem lookup_of_mem_fieldNames (h : name ∈ fieldNames (.dict id entries)) :
    ∃ v, lookup (.text name) entries = .ok (some v) := by
  obtain ⟨⟨key, w⟩, hmem, hkey⟩ := List.mem_filterMap.1 h
  exact findEntry_of_mem (text_equals name) hmem (equals_of_keyText hkey)

/-- What a dictionary has under a name that is a key but for letter case is the value at the key that is found for it. -/
theorem exists_keyFor (hk : k ∈ fieldNames (.dict id entries)) (hsame : sameName k name = true) :
    ∃ key v, keyFor? entries name = some key ∧ lookup (.text key) entries = .ok (some v) ∧
      (Value.dict id entries).segment? name = .ok (some v) := by
  obtain ⟨o, ho⟩ := lookup_text name entries
  rw [keyFor?, segment?, ho]
  rcases o with _ | v
  · have hfound : ((fieldNames (.dict none entries)).find? (sameName · name)).isSome :=
      List.find?_isSome.2 ⟨k, hk, hsame⟩
    obtain ⟨key, hkey⟩ := Option.isSome_iff_exists.1 hfound
    have hkey' : (fieldNames (.dict id entries)).find? (sameName · name) = some key := hkey
    obtain ⟨v, hv⟩ := lookup_of_mem_fieldNames (List.mem_of_find?_eq_some hkey')
    refine ⟨key, v, hkey, hv, ?_⟩
    show (Value.dict id entries).looseField? name = _
    rw [looseField?, hkey']
    exact hv
  · exact ⟨name, v, rfl, ho, rfl⟩

end Value

/-! ### Both conditions -/

namespace Token

/-- What is looked up for a name behind a point. -/
def fieldName (name : String) : String := if small name.toList ∈ keywords then small name.toList else name

theorem ofLexeme_field (name : String) :
    ∃ kind, (kind = .name ∨ kind = .keyword) ∧ ∀ p, (ofLexeme .name name.toList p).word = ⟨kind, fieldName name⟩ := by
  by_cases hsmall : small name.toList ∈ keywords
  · refine ⟨.keyword, .inr rfl, fun p => ?_⟩
    rw [ofLexeme, if_pos ⟨rfl, hsmall⟩, fieldName, if_pos hsmall]
    rfl
  · refine ⟨.name, .inl rfl, fun p => ?_⟩
    rw [Word.ofLexeme_name hsmall, fieldName, if_neg hsmall]
    rfl

/-- Keywords are segments of paths, in small letters. -/
theorem keywords_small : ∀ s ∈ keywords, s ≠ "" ∧ '.' ∉ s.toList ∧ Text.lower s = s := by decide

end Token

namespace Expr

variable {env : Environment} {cs : Cursors} {id : Identity} {entries : List (Value × Value)} {name k : String} {v : Value}

/-- A name behind a point, whatever its letter case. -/
theorem ofText_attribute (h : IsName name.toList) :
    ofText ("flow." ++ name) = .ok (.attribute (.root .flow) (Token.fieldName name)) := by
  obtain ⟨kind, hkind, hword⟩ := Token.ofLexeme_field name
  have hchars : ("flow." ++ name).toList = "flow".toList ++ (['.'] ++ (name.toList ++ [])) := by
    rw [String.toList_append, List.append_nil]
    rfl
  have hbehind : ∀ c ∈ (['.'] ++ (name.toList ++ [])).head?, isNameChar c = false := by
    intro c hc
    cases hc
    rfl
  have hflow := lexeme?_isName isName_flow hbehind
  have hpoint : Token.lexeme? (['.'] ++ (name.toList ++ [])) = some (some .operator, ['.'].length) :=
    lexeme?_mark (by decide) _
  have hlast : Token.lexeme? (name.toList ++ []) = some (some .name, name.toList.length) := lexeme?_isName h nofun
  have htokens : Token.ofText ("flow." ++ name) = .ok [Token.ofLexeme .name "flow".toList 0,
      Token.ofLexeme .operator ['.'] 4, Token.ofLexeme .name name.toList 5,
      ⟨.finish, "", 5 + name.toList.length⟩] := by
    rw [Token.ofText, hchars, scan_lexeme (by decide) hflow, scan_lexeme (by decide) hpoint, scan_lexeme h.ne_nil hlast]
    rfl
  have hwords : Grammar.Derives .member ([.name "flow"] ++ [.operator ".", ⟨kind, Token.fieldName name⟩])
      (.attribute (.root .flow) (Token.fieldName name)) := .field (.atom (.root .flow)) hkind
  refine Word.parsed_of_tokens htokens ?_ (.ofMember hwords)
  simp only [List.map_cons, List.map_nil, hword]
  rfl

theorem quotedText_isName (h : IsName name.toList) :
    (Word.quotedText name).value.toList = '"' :: (name.toList ++ ['"']) := by
  have hplain : ∀ c ∈ name.toList, Word.quotedChar c = [c] := by
    intro c hc
    refine if_neg ?_
    rintro (rfl | rfl) <;> cases h.chars _ hc
  rw [Word.toList_quotedText, List.flatMap_congr hplain, List.flatMap_singleton']

/-- A name as a text in brackets. -/
theorem ofText_item (h : IsName name.toList) :
    ofText ("flow[\"" ++ name ++ "\"]") = .ok (.index (.root .flow) (.literal (.text name))) := by
  have hchars : ("flow[\"" ++ name ++ "\"]").toList =
      "flow".toList ++ '[' :: ((Word.quotedText name).value.toList ++ [']']) := by
    rw [quotedText_isName h, String.toList_append, String.toList_append]
    simp
  have hclose : Word.Laid [']'] [.operator "]"] := .mark (by decide) .nil
  have hlaid : Word.Laid ("flow[\"" ++ name ++ "\"]").toList
      [.name "flow", .operator "[", Word.quotedText name, .operator "]"] := by
    rw [hchars]
    refine .name isName_flow (by decide) ?_ (.mark (by decide) (.word (Word.fits_quotedText name _) hclose))
    intro c hc
    cases hc
    rfl
  have hkey : Grammar.Derives .atom [Word.quotedText name] (.literal (.text name)) := by
    have htext := Grammar.Derives.text (Word.quotedText name).value
    rwa [Word.unquote_quotedText] at htext
  exact hlaid.parsed (.ofMember (.item (.atom (.root .flow)) (.ofMember (.atom hkey))))

theorem eval_item (hflow : env.flow = .dict id entries) (hv : Value.lookup (.text k) entries = .ok (some v)) :
    (eval env (.index (.root .flow) (.literal (.text k)))).run cs = (.ok v, cs) := by
  have hroot : (eval env (.root .flow)).run cs = (.ok env.flow, cs) := rfl
  have hkey : (eval env (.literal (.text k))).run cs = (.ok (.text k), cs) := rfl
  rw [eval, Eval.run_bind_ok hroot, Eval.run_bind_ok hkey, Eval.run_ofExcept, hflow]
  show (Value.lookup (.text k) entries >>= fun w => Except.ok (w.getD .null), cs) = _
  rw [hv]
  rfl

theorem eval_attribute (hempty : name ≠ "") (hpoint : '.' ∉ name.toList) :
    (eval env (.attribute (.root .flow) name)).run cs = (Value.orNull (env.flow.segment? name), cs) := by
  have hroot : (eval env (.root .flow)).run cs = (.ok env.flow, cs) := rfl
  rw [eval, Eval.run_bind_ok hroot, Eval.run_ofExcept, fieldOf_single hempty hpoint]

/-- The value at a key that has the form of a name is that of the condition with the key in brackets.  It is that of the
condition with the key behind a point too, unless the key is a keyword but for letter case: then it is so exactly if the
key that is found for the keyword in small letters has the same value. -/
theorem present_key_iff (env : Environment) (cs : Cursors) {id : Identity} {entries : List (Value × Value)} {k : String}
    (hflow : env.flow = .dict id entries) (hname : IsName k.toList) (hkey : k ∈ env.flow.fieldNames) :
    ∃ v, Value.lookup (.text k) entries = .ok (some v) ∧
      (∃ tree, ofText ("flow[\"" ++ k ++ "\"]") = .ok tree ∧ (eval env tree).run cs = (.ok v, cs)) ∧
      ∃ tree, ofText ("flow." ++ k) = .ok tree ∧
        ((eval env tree).run cs = (.ok v, cs) ↔
          (Token.small k.toList ∈ Token.keywords →
            ∃ key, Value.keyFor? entries (Token.small k.toList) = some key ∧
              Value.lookup (.text key) entries = .ok (some v))) := by
  rw [hflow] at hkey
  obtain ⟨v, hv⟩ := Value.lookup_of_mem_fieldNames hkey
  refine ⟨v, hv, ⟨_, ofText_item hname, eval_item hflow hv⟩, _, ofText_attribute hname, ?_⟩
  by_cases hsmall : Token.small k.toList ∈ Token.keywords
  · obtain ⟨hempty, hpoint, hlower⟩ := Token.keywords_small _ hsmall
    have hsame : Value.sameName k (Token.small k.toList) = true := by
      have hk := Token.lower_isName hname
      rw [String.ofList_toList] at hk
      rw [Value.sameName, hk, hlower, beq_self_eq_true]
    obtain ⟨key, w, hfor, hw, hsegment⟩ := Value.exists_keyFor hkey hsame
    rw [Token.fieldName, if_pos hsmall, eval_attribute hempty hpoint, hflow, hsegment]
    constructor
    · intro h _
      cases h
      exact ⟨key, hfor, hw⟩
    · intro h
      obtain ⟨key', hfor', hv'⟩ := h hsmall
      obtain rfl : key = key' := Option.some.inj (hfor.symm.trans hfor')
      obtain rfl : w = v := Option.some.inj (Except.ok.inj (hw.symm.trans hv'))
      rfl
  · have hsegment : env.flow.segment? k = .ok (some v) := by
      rw [hflow, Value.segment?, hv]
      rfl
    have hvalid : (Segment.name k).Valid := ⟨hname, hsmall⟩
    have hempty : k ≠ "" := Segment.text_ne_empty hvalid
    have hpoint : '.' ∉ k.toList := Segment.point_notMem_text hvalid
    rw [Token.fieldName, if_neg hsmall, eval_attribute hempty hpoint, hsegment]
    exact iff_of_true rfl fun h => absurd h hsmall

private def visits : List (Value × Value) := [(.text "Out", .int 3), (.text "In", .int 5)]

/-- A key that is a keyword but for its capital, with no other such key beside it. -/
theorem present_key_iff_in :
    Text.IsName "In".toList ∧ "In" ∈ (Value.dict none visits).fieldNames ∧
      (∃ tree, ofText "flow[\"In\"]" = .ok tree ∧ (eval ⟨.dict none visits, .null, ""⟩ tree).run [] = (.ok (.int 5), [])) ∧
      ∃ tree, ofText "flow.In" = .ok tree ∧ (eval ⟨.dict none visits, .null, ""⟩ tree).run [] = (.ok (.int 5), []) := by
  have hname : Text.IsName "In".toList := isName_of_all rfl rfl
  have hkey : "In" ∈ (Value.dict none visits).fieldNames := by decide
  have hvalue : Value.lookup (.text "In") visits = .ok (some (.int 5)) := rfl
  have hfor : Value.keyFor? visits (Token.small "In".toList) = some "In" := rfl
  obtain ⟨v, hv, hitem, tree, htree, hiff⟩ := present_key_iff ⟨.dict none visits, .null, ""⟩ [] rfl hname hkey
  obtain rfl : v = .int 5 := Option.some.inj (Except.ok.inj (hv.symm.trans hvalue))
  rw [show "flow[\"" ++ "In" ++ "\"]" = "flow[\"In\"]" by decide] at hitem
  rw [show "flow." ++ "In" = "flow.In" by decide] at htree
  exact ⟨hname, hkey, hitem, tree, htree, hiff.2 fun _ => ⟨"In", hfor, hvalue⟩⟩

private def switches : List (Value × Value) := [(.text "not", .int 0), (.text "NOT", .int 1)]

/-- Of two keys that are one keyword but for letter case, the one in capitals is not found behind a point. -/
theorem keyword_key_displaced :
    Text.IsName "NOT".toList ∧ Value.lookup (.text "NOT") switches = .ok (some (.int 1)) ∧
      (∃ tree, ofText "flow[\"NOT\"]" = .ok tree ∧
        (eval ⟨.dict none switches, .null, ""⟩ tree).run [] = (.ok (.int 1), [])) ∧
      ∃ tree, ofText "flow.NOT" = .ok tree ∧
        (eval ⟨.dict none switches, .null, ""⟩ tree).run [] = (.ok (.int 0), []) := by
  have hname : Text.IsName "NOT".toList := isName_of_all rfl rfl
  have hvalue : Value.lookup (.text "NOT") switches = .ok (some (.int 1)) := rfl
  have hitem := ofText_item hname
  have hattribute := ofText_attribute hname
  rw [show "flow[\"" ++ "NOT" ++ "\"]" = "flow[\"NOT\"]" by decide] at hitem
  rw [show "flow." ++ "NOT" = "flow.NOT" by decide, show Token.fieldName "NOT" = "not" by decide] at hattribute
  exact ⟨hname, hvalue, ⟨_, hitem, eval_item rfl hvalue⟩, _, hattribute, rfl⟩

end Expr
end FlowRules
