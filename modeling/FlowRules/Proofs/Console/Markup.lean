import FlowRules.Console.Page
import FlowRules.Proofs.Number.Reading

/-!
# Renderers of marked-up text

What a command prints is shown by a renderer, of which only what is documented matters (`Renderer.Documented`).  The
renderer of the commands keeps these laws (`Renderer.standard_documented`): only a tag that ends a style which is not
open keeps a text from being shown.  So a text is shown if no tag in it ends a style (`Markup.shows_of_no_closing`), or
if each style is ended by the tag behind what it is for (`Markup.shows_pieces`).  Both rest on what a tag that is found
is: a piece of the text, with its brackets and the backslashes in front of it (`Markup.firstTag_spec`).
-/

namespace FlowRules

namespace Renderer

/-- A marked-up text that can be shown. -/
def IsProper (render : Renderer) (markup : String) : Prop := ∃ text, render.text markup = .ok text

/-- A character that no tag begins with, and that keeps no other from beginning one. -/
def IsPlain (c : Char) : Prop := c ≠ '[' ∧ c ≠ '\\'

instance (c : Char) : Decidable (IsPlain c) := inferInstanceAs (Decidable (_ ∧ _))

/-- A text that stands for itself. -/
def IsPlainText (text : String) : Prop := ∀ c ∈ text.toList, IsPlain c

-- the characters are gone through by `List.all`, which can be computed in any context
instance (text : String) : Decidable (IsPlainText text) :=
  decidable_of_iff ((text.toList.all fun c => decide (IsPlain c)) = true) (by simp [IsPlainText])

theorem IsPlainText.append {a b : String} (ha : IsPlainText a) (hb : IsPlainText b) : IsPlainText (a ++ b) := by
  rw [IsPlainText, String.toList_append]
  exact List.forall_mem_append.2 ⟨ha, hb⟩

/-- A name of a style of one word. -/
def IsStyleName (name : String) : Prop := name ≠ "" ∧ ∀ c ∈ name.toList, 'a' ≤ c ∧ c ≤ 'z'

instance (name : String) : Decidable (IsStyleName name) :=
  decidable_of_iff (name ≠ "" ∧ (name.toList.all fun c => 'a' ≤ c && c ≤ 'z') = true) (by simp [IsStyleName])

/-- A piece of a text: one that is in no style, or one in a style of its own. -/
inductive Piece where
  | unstyled (text : String)
  | styled (style text : String)

namespace Piece

def markup : Piece → String
  | unstyled text => text
  | styled style text => "[" ++ style ++ "]" ++ text ++ "[/]"

/-- A piece whose text is plain, in a style with a name. -/
def IsPlain : Piece → Prop
  | unstyled text => IsPlainText text
  | styled style text => IsStyleName style ∧ IsPlainText text

end Piece

/-- What the documentation of the markup says of a renderer: texts in styles are shown, a style that is not ended goes
on to the end of the text, a tag that ends a style which is not open is an error, and the texts of a table are marked up
as others are. -/
structure Documented (render : Renderer) : Prop where
  styled : ∀ pieces : List Piece, (∀ p ∈ pieces, p.IsPlain) → render.IsProper (String.join (pieces.map Piece.markup))
  unended : ∀ markup : String, ¬['[', '/'] <:+: markup.toList → render.IsProper markup
  unmatched : ∀ lead style rest : String, IsPlainText lead → IsStyleName style →
    ¬render.IsProper (lead ++ "[/" ++ style ++ "]" ++ rest)
  table : ∀ title columns rows, (∃ table, render.table title columns rows = .ok table) ↔
    (∀ text ∈ title, render.IsProper text) ∧ (∀ text ∈ columns, render.IsProper text) ∧
      ∀ row ∈ rows, ∀ text ∈ row, render.IsProper text

end Renderer

/-! ### Actions that may fail -/

section

variable {α β : Type} {x : Except Fault α} {f : α → Except Fault β} {xs : List α}

theorem exists_bind_iff : (∃ b, (x >>= f) = .ok b) ↔ ∃ a, x = .ok a ∧ ∃ b, f a = .ok b := by
  rcases x with e | a
  · exact ⟨nofun, nofun⟩
  · exact ⟨fun h => ⟨a, rfl, h⟩, by rintro ⟨_, ⟨⟩, h⟩; exact h⟩

/-- A list can be gone through with good results only just if each of its items gives one. -/
theorem exists_mapM_and_iff {P : β → Prop} :
    (∃ ys, xs.mapM f = .ok ys ∧ ∀ y ∈ ys, P y) ↔ ∀ x ∈ xs, ∃ y, f x = .ok y ∧ P y := by
  induction xs with
  | nil => exact ⟨fun _ => nofun, fun _ => ⟨[], rfl, nofun⟩⟩
  | cons x xs ih =>
    rw [List.forall_mem_cons, ← ih, List.mapM_cons]
    rcases f x with f | y
    · exact ⟨nofun, nofun⟩
    · rcases xs.mapM f with f | ys
      · exact ⟨nofun, nofun⟩
      · constructor
        · rintro ⟨_, ⟨⟩, hall⟩
          obtain ⟨hy, hys⟩ := List.forall_mem_cons.1 hall
          exact ⟨⟨y, rfl, hy⟩, ys, rfl, hys⟩
        · rintro ⟨⟨_, ⟨⟩, hy⟩, _, ⟨⟩, hys⟩
          exact ⟨y :: ys, rfl, List.forall_mem_cons.2 ⟨hy, hys⟩⟩

theorem exists_mapM_iff : (∃ ys, xs.mapM f = .ok ys) ↔ ∀ x ∈ xs, ∃ y, f x = .ok y := by
  have h := @exists_mapM_and_iff α β f xs fun _ => True
  simpa using h

theorem exists_option_mapM_iff {a : Option α} : (∃ b, a.mapM f = .ok b) ↔ ∀ x ∈ a, ∃ y, f x = .ok y := by
  rcases a with _ | x
  · exact ⟨fun _ => nofun, fun _ => ⟨none, rfl⟩⟩
  · simp only [Option.mapM_some, Option.mem_def, Option.some.injEq, forall_eq', map_eq_pure_bind, exists_bind_iff]
    exact ⟨fun ⟨y, hy, _⟩ => ⟨y, hy⟩, fun ⟨y, hy⟩ => ⟨y, hy, _, rfl⟩⟩

end

namespace Markup

/-- Where some styles are open some characters can be shown, wherever they stand. -/
def Shows (styles : List String) (cs : List Char) : Prop :=
  ∀ position fuel, ∃ shown, shownChars position styles cs fuel = .ok shown

open Renderer (IsPlain)

variable {cs rest plain lead body more : List Char} {styles : List String} {tag : Found} {markup : String}

theorem isProper_of_shows (h : Shows [] markup.toList) : Renderer.standard.IsProper markup := by
  obtain ⟨shown, hshown⟩ := h 0 (markup.length + 1)
  show ∃ text, Page.printed markup = .ok text
  rw [Page.printed, Markup.shown, hshown]
  exact ⟨_, rfl⟩

/-! ### Tags -/

private theorem takeWhile_append_drop (f : Char → Bool) (cs : List Char) :
    cs.takeWhile f ++ cs.drop (cs.takeWhile f).length = cs := by
  conv_lhs => rw [List.prefix_iff_eq_take.1 (List.takeWhile_prefix f (l := cs)), List.length_take]
  rw [Nat.min_eq_left (List.takeWhile_prefix f).length_le, List.take_append_drop]

theorem tagBody?_spec (h : tagBody? cs = some (body, rest)) : cs = body ++ ']' :: rest := by
  rcases cs with _ | ⟨c, cs⟩
  · cases h
  · rw [tagBody?] at h
    split at h
    · cases h
    · dsimp only at h
      split at h
      · next hdrop =>
        cases h
        have hcs := takeWhile_append_drop (fun d => d ≠ ']' && d ≠ '[') cs
        rw [hdrop] at hcs
        rw [List.cons_append, hcs]
      · cases h

/-- The tag that is found at some characters is what these begin with. -/
theorem tagHere?_spec (h : tagHere? cs = some tag) :
    cs = List.replicate tag.backslashes '\\' ++ '[' :: tag.body ++ ']' :: tag.rest := by
  unfold tagHere? at h
  dsimp only at h
  split at h
  · next more hdrop =>
    obtain ⟨⟨body, rest⟩, hbody, rfl⟩ := Option.map_eq_some_iff.1 h
    have hslashes : cs.takeWhile (· = '\\') = List.replicate (cs.takeWhile (· = '\\')).length '\\' :=
      List.eq_replicate_of_mem fun c hc => by simpa using List.mem_takeWhile_imp hc
    have hcs := takeWhile_append_drop (· = '\\') cs
    rw [hdrop, tagBody?_spec hbody, hslashes] at hcs
    simpa using hcs.symm
  · cases h

/-- The tag that is found in some characters stands behind what comes before it. -/
theorem firstTag_spec (h : (firstTag cs).2 = some tag) :
    cs = (firstTag cs).1 ++ List.replicate tag.backslashes '\\' ++ '[' :: tag.body ++ ']' :: tag.rest := by
  induction cs with
  | nil => cases h
  | cons c cs ih =>
    rw [firstTag] at h ⊢
    split
    · next found hfound =>
      rw [hfound] at h
      cases h
      exact tagHere?_spec hfound
    · next hnone =>
      rw [hnone] at h
      exact congrArg (c :: ·) (ih h)

/-! ### What is shown -/

theorem Shows.of_none (h : (firstTag cs).2 = none) : Shows styles cs := by
  intro position fuel
  rcases fuel with _ | fuel
  · exact ⟨_, rfl⟩
  · rw [shownChars]
    dsimp only
    rw [h]
    exact ⟨_, rfl⟩

/-- What is behind a tag is shown in the styles that are open there: those before a tag that is plain text, for its
backslashes, and those that the tag leaves. -/
theorem Shows.of_tag (h : (firstTag cs).2 = some tag)
    (hplain : tag.backslashes % 2 = 1 → Shows styles tag.rest)
    (hstyle : tag.backslashes % 2 ≠ 1 →
      ∃ left, (∀ position, afterTag position tag.body styles = .ok left) ∧ Shows left tag.rest) :
    Shows styles cs := by
  intro position fuel
  rcases fuel with _ | fuel
  · exact ⟨_, rfl⟩
  · rw [shownChars]
    dsimp only
    rw [h]
    dsimp only
    split
    · next hodd =>
      obtain ⟨shown, hshown⟩ := hplain hodd
        (position + (firstTag cs).1.length + tag.backslashes + tag.body.length + 2) fuel
      simp only [bind, Except.bind, hshown]
      exact ⟨_, rfl⟩
    · next heven =>
      obtain ⟨left, hafter, hrest⟩ := hstyle heven
      obtain ⟨shown, hshown⟩ := hrest
        (position + (firstTag cs).1.length + tag.backslashes + tag.body.length + 2) fuel
      simp only [bind, Except.bind, Except.map, hafter, hshown]
      exact ⟨_, rfl⟩

/-! ### Texts in which no style is ended -/

theorem head?_takeWhile (f : Char → Bool) (c : Char) (h : (cs.takeWhile f).head? = some c) : cs.head? = some c := by
  obtain ⟨rest, hrest⟩ := List.takeWhile_prefix f (l := cs)
  rw [← hrest, List.head?_append, h]
  rfl

/-- A tag that does not end a style begins one. -/
theorem afterTag_of_head (h : body.head? ≠ some '/') (styles : List String) :
    ∃ style, ∀ position, afterTag position body styles = .ok (style :: styles) := by
  refine ⟨canonical (String.ofList (body.takeWhile (· ≠ '='))), fun position => ?_⟩
  unfold afterTag
  dsimp only
  split
  · next closing hname =>
    rw [String.toList_ofList] at hname
    exact absurd (head?_takeWhile _ '/' (by rw [hname]; rfl)) h
  · rfl

/-- Texts in which no tag ends a style are shown. -/
theorem shows_of_no_closing (h : ¬['[', '/'] <:+: cs) (styles : List String) : Shows styles cs := by
  induction hn : cs.length using Nat.strong_induction_on generalizing cs styles with
  | _ n ih =>
    rcases htag : (firstTag cs).2 with _ | tag
    · exact .of_none htag
    · have hcs := firstTag_spec htag
      have hshorter : tag.rest.length < n := by
        rw [← hn, hcs]
        simp only [List.length_append, List.length_cons]
        omega
      have hrest (styles : List String) : Shows styles tag.rest := by
        refine ih _ hshorter (fun hclosing => h (hclosing.trans ?_)) styles rfl
        rw [hcs]
        exact ((List.suffix_cons _ _).trans (List.suffix_append _ _)).isInfix
      have hhead : tag.body.head? ≠ some '/' := by
        intro hslash
        obtain ⟨more, hbody⟩ := List.head?_eq_some_iff.1 hslash
        refine h (hcs ▸ ?_)
        rw [hbody]
        exact ⟨(firstTag cs).1 ++ List.replicate tag.backslashes '\\', more ++ ']' :: tag.rest, by simp⟩
      refine .of_tag htag (fun _ => hrest styles) fun _ => ?_
      obtain ⟨style, hafter⟩ := afterTag_of_head hhead styles
      exact ⟨_, hafter, hrest _⟩

/-! ### Texts in a style of their own -/

theorem firstTag_plain (h : ∀ c ∈ plain, IsPlain c) :
    (firstTag (plain ++ cs)).2 = (firstTag cs).2 := by
  induction plain with
  | nil => rfl
  | cons c plain ih =>
    obtain ⟨⟨hbracket, hslash⟩, hplain⟩ := List.forall_mem_cons.1 h
    have hnone : tagHere? (c :: (plain ++ cs)) = none := by
      unfold tagHere?
      rw [List.takeWhile_cons_of_neg (by simpa using hslash)]
      dsimp only [List.length_nil, List.drop_zero]
      split
      · next heq => exact absurd (List.cons.inj heq).1 hbracket
      · rfl
    rw [List.cons_append, firstTag, hnone]
    exact ih hplain

/-- A tag behind plain characters is the first one. -/
theorem firstTag_lead (c : Char) (name : List Char) (hlead : ∀ d ∈ lead, IsPlain d) (hc : startsTag c = true)
    (hname : ∀ d ∈ name, d ≠ ']' ∧ d ≠ '[') (rest : List Char) :
    (firstTag (lead ++ ('[' :: (c :: name) ++ ']' :: rest))).2 = some ⟨0, c :: name, rest⟩ := by
  rw [firstTag_plain hlead]
  have hbody : tagBody? ((c :: name) ++ ']' :: rest) = some (c :: name, rest) := by
    rw [List.cons_append, tagBody?, hc]
    rw [Token.takeWhile_append (fun d hd => by simpa using hname d hd) (by simp)]
    simp
  have htag : tagHere? ('[' :: (c :: name) ++ ']' :: rest) = some ⟨0, c :: name, rest⟩ := by
    unfold tagHere?
    rw [List.cons_append, List.takeWhile_cons_of_neg (by decide)]
    show (tagBody? ((c :: name) ++ ']' :: rest)).map _ = _
    rw [hbody]
    rfl
  rw [List.cons_append, firstTag, ← List.cons_append, htag]

/-- The tag without a name ends the style that was begun last. -/
theorem afterTag_slash (position : Nat) (style : String) (styles : List String) :
    afterTag position ['/'] (style :: styles) = .ok styles := by
  have hname : (String.ofList (['/'].takeWhile (· ≠ '='))).toList = ['/'] := by decide
  have hnone : Text.trim (String.ofList []) = "" := by decide
  rw [afterTag, hname]
  exact if_pos hnone

/-- A text in a style of its own is shown, if what is behind it is. -/
theorem Shows.styled (hrest : Shows styles rest) (lead : List Char) (c : Char) (name plain : List Char)
    (hlead : ∀ d ∈ lead, IsPlain d) (hc : startsTag c = true ∧ c ≠ '/') (hname : ∀ d ∈ name, d ≠ ']' ∧ d ≠ '[')
    (hplain : ∀ d ∈ plain, IsPlain d) :
    Shows styles (lead ++ ('[' :: (c :: name) ++ ']' :: (plain ++ ('[' :: ['/'] ++ ']' :: rest)))) := by
  have hhead : (c :: name).head? ≠ some '/' := fun h => hc.2 (Option.some.inj h)
  obtain ⟨style, hbegin⟩ := afterTag_of_head hhead styles
  have hinner : Shows (style :: styles) (plain ++ ('[' :: ['/'] ++ ']' :: rest)) := by
    have htag := firstTag_lead '/' [] hplain rfl nofun rest
    exact .of_tag htag nofun fun _ => ⟨styles, fun position => afterTag_slash position style styles, hrest⟩
  have htag := firstTag_lead c name hlead hc.1 hname (plain ++ ('[' :: ['/'] ++ ']' :: rest))
  exact .of_tag htag nofun fun _ => ⟨_, hbegin, hinner⟩

theorem startsTag_of_small {c : Char} (h : 'a' ≤ c ∧ c ≤ 'z') : startsTag c = true := by
  rw [startsTag, decide_eq_true h.1, decide_eq_true h.2]
  rfl

theorem ne_bracket_of_small {c : Char} (h : 'a' ≤ c ∧ c ≤ 'z') : c ≠ ']' ∧ c ≠ '[' := by
  constructor <;> rintro rfl <;> exact absurd h (by decide)

/-- Plain pieces are shown behind plain characters. -/
theorem shows_pieces {pieces : List Renderer.Piece} (h : ∀ p ∈ pieces, p.IsPlain) (hlead : ∀ c ∈ lead, IsPlain c) :
    Shows [] (lead ++ (String.join (pieces.map Renderer.Piece.markup)).toList) := by
  induction pieces generalizing lead with
  | nil =>
    refine shows_of_no_closing (fun hclosing => ?_) []
    rw [List.map_nil, String.join_nil, String.toList_empty, List.append_nil] at hclosing
    exact (hlead '[' (hclosing.subset (by decide))).1 rfl
  | cons p pieces ih =>
    obtain ⟨hp, hpieces⟩ := List.forall_mem_cons.1 h
    rw [List.map_cons, String.join_cons, String.toList_append]
    cases p with
    | unstyled text =>
      rw [Renderer.Piece.markup, ← List.append_assoc]
      exact ih hpieces (List.forall_mem_append.2 ⟨hlead, hp⟩)
    | styled style text =>
      obtain ⟨⟨hne, hstyle⟩, htext⟩ := hp
      obtain ⟨c, name, hchars⟩ := List.exists_cons_of_ne_nil (mt String.toList_eq_nil_iff.1 hne)
      rw [hchars] at hstyle
      obtain ⟨hc, hname⟩ := List.forall_mem_cons.1 hstyle
      have hslash : c ≠ '/' := by
        rintro rfl
        exact absurd hc (by decide)
      have hrest := @ih [] hpieces nofun
      have hstyled := hrest.styled lead c name text.toList hlead ⟨startsTag_of_small hc, hslash⟩
        (fun d hd => ne_bracket_of_small (hname d hd)) htext
      have hmarkup : (Renderer.Piece.styled style text).markup.toList =
          '[' :: (c :: name) ++ ']' :: (text.toList ++ ['[', '/', ']']) := by
        rw [Renderer.Piece.markup]
        simp only [String.toList_append, hchars]
        simp
      rw [hmarkup]
      simpa using hstyled

private theorem not_blank_of_small {c : Char} (h : 'a' ≤ c ∧ c ≤ 'z') : Text.isBlank c = false := by
  have hblank : ∀ n < 123, 97 ≤ n → Text.inBands n Text.blankBounds false = false := by decide
  exact hblank c.toNat (Nat.lt_succ_of_le h.2) h.1

/-- A tag that ends a style is an error where no style is open. -/
theorem afterTag_unmatched (position : Nat) {name : List Char} (hne : name ≠ [])
    (hname : ∀ c ∈ name, 'a' ≤ c ∧ c ≤ 'z') : ∃ f, afterTag position ('/' :: name) [] = .error f := by
  have hall : ∀ c ∈ '/' :: name, decide (c ≠ '=') = true := by
    refine List.forall_mem_cons.2 ⟨by decide, fun c hc => decide_eq_true ?_⟩
    rintro rfl
    exact absurd (hname _ hc) (by decide)
  have hbody : ('/' :: name).takeWhile (· ≠ '=') = '/' :: name := List.takeWhile_eq_self_iff.2 hall
  have htrim : Text.trim (String.ofList name) ≠ "" := by
    rw [Text.trim, String.toList_ofList, Text.trimChars_eq_self fun c hc => not_blank_of_small (hname c hc)]
    exact fun h => hne (String.ofList_eq_empty_iff.1 h)
  unfold afterTag
  dsimp only
  rw [hbody, String.toList_ofList]
  split
  · next closing hclosing =>
    cases hclosing
    rw [if_neg htrim]
    exact ⟨_, rfl⟩
  · next hnone => exact absurd rfl (hnone name)

/-- A text cannot be shown where its first tag is an error. -/
theorem shownChars_error (h : (firstTag cs).2 = some tag) (heven : tag.backslashes % 2 ≠ 1)
    (hafter : ∀ position, ∃ f, afterTag position tag.body styles = .error f) (position fuel : Nat) :
    ∃ f, shownChars position styles cs (fuel + 1) = .error f := by
  obtain ⟨f, hf⟩ := hafter (position + (firstTag cs).1.length + tag.backslashes)
  rw [shownChars]
  dsimp only
  rw [h]
  dsimp only
  rw [if_neg heven, hf]
  exact ⟨f, rfl⟩

end Markup

namespace Renderer

theorem standard_documented : standard.Documented where
  styled _ h := Markup.isProper_of_shows (@Markup.shows_pieces [] _ h nofun)
  unended _ h := Markup.isProper_of_shows (Markup.shows_of_no_closing h [])
  unmatched lead style rest hlead hstyle := by
    have hchars : (lead ++ "[/" ++ style ++ "]" ++ rest).toList =
        lead.toList ++ ('[' :: ('/' :: style.toList) ++ ']' :: rest.toList) := by
      simp only [String.toList_append]
      simp
    have htag := Markup.firstTag_lead '/' style.toList hlead rfl
      (fun d hd => Markup.ne_bracket_of_small (hstyle.2 d hd)) rest.toList
    obtain ⟨f, hf⟩ := Markup.shownChars_error htag Nat.zero_ne_one
      (fun position => Markup.afterTag_unmatched position (mt String.toList_eq_nil_iff.1 hstyle.1) hstyle.2) 0
      (lead ++ "[/" ++ style ++ "]" ++ rest).length
    rintro ⟨text, htext⟩
    replace htext : Page.printed (lead ++ "[/" ++ style ++ "]" ++ rest) = .ok text := htext
    rw [Page.printed, Markup.shown, hchars, hf] at htext
    cases htext
  table title columns rows := by
    show (∃ table, Table.ofMarkup title columns rows = .ok table) ↔ _
    have hrows : (∃ shown, rows.mapM (fun row => row.mapM Page.printed) = .ok shown) ↔
        ∀ row ∈ rows, ∀ text ∈ row, standard.IsProper text := by
      rw [exists_mapM_iff]
      exact forall₂_congr fun row _ => exists_mapM_iff
    have htitle : (∃ shown, title.mapM Page.printed = .ok shown) ↔ ∀ text ∈ title, standard.IsProper text :=
      exists_option_mapM_iff
    have hcolumns : (∃ shown, columns.mapM Page.printed = .ok shown) ↔ ∀ text ∈ columns, standard.IsProper text :=
      exists_mapM_iff
    rw [← hrows, ← htitle, ← hcolumns]
    simp only [Table.ofMarkup, exists_bind_iff, Except.ok.injEq, exists_eq', and_true, exists_and_right]

end Renderer
end FlowRules
