import Mathlib.Data.List.Basic
import PakeRegistration.Json.Printer
import PakeRegistration.Json.Reader
import PakeRegistration.Proofs.Outcome
import PakeRegistration.Text.Quoted

namespace PakeRegistration

theorem CodePoint.not_isSurrogate_ofChar (c : Char) : ¬(ofChar c).IsSurrogate := by
  have h := c.valid
  simp only [UInt32.isValidChar, Nat.isValidChar] at h
  intro hs
  simp only [IsSurrogate, ofChar, Char.toNat] at hs
  omega

theorem Text.not_isSurrogate_ofString (s : String) : ∀ c ∈ ofString s, ¬c.IsSurrogate := by
  intro c hc
  obtain ⟨d, _, rfl⟩ := List.mem_map.mp hc
  exact CodePoint.not_isSurrogate_ofChar d

theorem CodePoint.not_isSurrogate_hexDigit (n : Nat) : ¬(hexDigit n).IsSurrogate :=
  not_isSurrogate_ofChar _

namespace Text

theorem not_isSurrogate_append {t t' : Text} (h : ∀ c ∈ t, ¬c.IsSurrogate) (h' : ∀ c ∈ t', ¬c.IsSurrogate) :
    ∀ c ∈ t ++ t', ¬c.IsSurrogate :=
  List.forall_mem_append.mpr ⟨h, h'⟩

theorem not_isSurrogate_map_hexDigit (digits : List Nat) : ∀ c ∈ digits.map CodePoint.hexDigit, ¬c.IsSurrogate := by
  intro c hc
  obtain ⟨n, _, rfl⟩ := List.mem_map.mp hc
  exact CodePoint.not_isSurrogate_hexDigit n

theorem not_isSurrogate_escaped (isPrinted : CodePoint → Bool) (mark c : CodePoint) (hc : ¬c.IsSurrogate) :
    ∀ d ∈ escaped isPrinted mark c, ¬d.IsSurrogate := by
  have hself : ∀ d ∈ [c], ¬d.IsSurrogate := List.forall_mem_singleton.mpr hc
  unfold escaped numbered
  repeat' split
  · exact not_isSurrogate_append (not_isSurrogate_ofString _) hself
  iterate 3 exact not_isSurrogate_ofString _
  · exact hself
  iterate 2 exact not_isSurrogate_append (not_isSurrogate_ofString _) (not_isSurrogate_map_hexDigit _)
  · refine not_isSurrogate_append ?_ (not_isSurrogate_map_hexDigit _)
    exact not_isSurrogate_append (not_isSurrogate_ofString _) (not_isSurrogate_map_hexDigit _)

theorem not_isSurrogate_quoteMark (t : Text) : ¬(quoteMark t).IsSurrogate := by
  unfold quoteMark
  split <;> decide

theorem not_isSurrogate_quoted {t : Text} (h : ∀ c ∈ t, ¬c.IsSurrogate) : ∀ c ∈ t.quoted, ¬c.IsSurrogate := by
  have hmark : ∀ c ∈ [quoteMark t], ¬c.IsSurrogate := List.forall_mem_singleton.mpr (not_isSurrogate_quoteMark t)
  refine not_isSurrogate_append (List.forall_mem_cons.mpr ⟨not_isSurrogate_quoteMark t, ?_⟩) hmark
  intro c hc
  obtain ⟨d, hd, hc⟩ := List.mem_flatMap.mp hc
  exact not_isSurrogate_escaped _ _ d (h d hd) c hc

end Text

namespace Json.Reader

open Outcome

theorem hexValue?_hexDigit (n : Nat) : hexValue? (CodePoint.hexDigit (n % 16)) = some (n % 16) := by
  have htable : ∀ m : Fin 16, hexValue? (CodePoint.hexDigit m) = some m.val := by decide
  exact htable ⟨n % 16, Nat.mod_lt n (by decide)⟩

theorem unit?_fourDigits (n : Nat) (h : n < 0x10000) (rest : Text) (hr : rest ≠ []) :
    unit? (Text.fourDigits n ++ rest) = some (⟨n, h⟩, rest) := by
  obtain ⟨next, rest, rfl⟩ := List.exists_cons_of_ne_nil hr
  have hvalue : (n / 4096 % 16 * 16 + n / 256 % 16) * 256 + n / 16 % 16 * 16 + n % 16 = n := by omega
  simp only [Text.fourDigits, List.map_cons, List.map_nil, List.cons_append, List.nil_append, unit?,
    hexValue?_hexDigit, Option.bind_eq_bind, Option.bind_some, hvalue, Option.pure_def, Option.some.injEq,
    Prod.mk.injEq, and_true]
  exact Fin.ext (Nat.mod_eq_of_lt h)

theorem afterWord?_unit (n : Nat) (rest : Text) :
    afterWord? "\\u" (Printer.unit n ++ rest) = some (Text.fourDigits n ++ rest) := rfl

theorem unicodeEscape_unit (c : CodePoint) (hc : ¬c.IsSurrogate) (h : c.val < 0x10000) (rest : Text)
    (hr : rest ≠ []) : unicodeEscape (0x75 :: (Text.fourDigits c.val ++ rest)) = .ok (c, rest) := by
  have hhigh : ¬(0xD800 ≤ c.val ∧ c.val ≤ 0xDBFF) := by
    rintro ⟨hl, hu⟩
    exact hc ⟨hl, Nat.le_trans hu (by decide)⟩
  rw [unicodeEscape, List.tail_cons, unit?_fourDigits c.val h rest hr]
  simp only [hhigh, if_false]
  rfl

theorem unicodeEscape_pair (c : CodePoint) (h : 0x10000 ≤ c.val) (rest : Text) (hr : rest ≠ []) :
    unicodeEscape (0x75 :: (Text.fourDigits (0xD800 + (c.val - 0x10000) / 1024) ++
      (Printer.unit (0xDC00 + (c.val - 0x10000) % 1024) ++ rest))) = .ok (c, rest) := by
  have hc := c.isLt
  have hhigh : 0xD800 + (c.val - 0x10000) / 1024 < 0x10000 := by omega
  have hlow : 0xDC00 + (c.val - 0x10000) % 1024 < 0x10000 := by omega
  have hhigh' : 0xD800 ≤ 0xD800 + (c.val - 0x10000) / 1024 ∧ 0xD800 + (c.val - 0x10000) / 1024 ≤ 0xDBFF := by omega
  have hlow' : 0xDC00 ≤ 0xDC00 + (c.val - 0x10000) % 1024 ∧ 0xDC00 + (c.val - 0x10000) % 1024 ≤ 0xDFFF := by omega
  have hlength : 6 < (Printer.unit (0xDC00 + (c.val - 0x10000) % 1024) ++ rest).length := by
    have := List.length_pos_iff.mpr hr
    rw [List.length_append]
    change 6 < 6 + rest.length
    omega
  have hpair : ofPair ⟨_, hhigh⟩ ⟨_, hlow⟩ = c := by
    apply Fin.ext
    simp only [ofPair, Fin.val_ofNat]
    omega
  rw [unicodeEscape, List.tail_cons, unit?_fourDigits _ hhigh _ (List.append_ne_nil_of_right_ne_nil _ hr)]
  simp only [hhigh', and_self, if_true, secondEscape?, hlength, afterWord?_unit, unit?_fourDigits _ hlow rest hr,
    hlow', hpair]

theorem piece_character (opening : Text) (c : CodePoint) (hc : ¬c.IsSurrogate) (rest : Text) (hr : rest ≠ []) :
    piece opening (Printer.character c ++ rest) = .ok (some c, rest) := by
  have hsimple (n : Nat) (hn : n < 0x110000) (h : c.val = n) : c = ⟨n, hn⟩ := Fin.ext h
  unfold Printer.character
  split
  next h => rw [hsimple _ (by decide) h]; rfl
  split
  next h => rw [hsimple _ (by decide) h]; rfl
  split
  next h => rw [hsimple _ (by decide) h]; rfl
  split
  next h => rw [hsimple _ (by decide) h]; rfl
  split
  next h => rw [hsimple _ (by decide) h]; rfl
  split
  next h => rw [hsimple _ (by decide) h]; rfl
  split
  next h => rw [hsimple _ (by decide) h]; rfl
  next hquote hbackslash _ _ _ _ _ =>
    split
    next h =>
      have hcontrol : ¬c.val < 0x20 := Nat.not_lt.mpr h.1
      simp only [List.singleton_append, piece, hquote, hbackslash, hcontrol, if_false]
    · split
      next h =>
        have he := unicodeEscape_unit c hc h rest hr
        change (unicodeEscape (0x75 :: (Text.fourDigits c.val ++ rest)) >>= _) = _
        rw [he]
        rfl
      next h =>
        have he := unicodeEscape_pair c (Nat.not_lt.mp h) rest hr
        rw [List.append_assoc]
        change (unicodeEscape (0x75 :: (Text.fourDigits _ ++ (Printer.unit _ ++ rest))) >>= _) = _
        rw [he]
        rfl

theorem stringBody_flatMap (opening t rest read : Text) (ht : ∀ c ∈ t, ¬c.IsSurrogate) (fuel : Nat)
    (hf : t.length < fuel) :
    stringBody opening fuel read (t.flatMap Printer.character ++ 0x22 :: rest) = .ok (read.reverse ++ t, rest) := by
  induction t generalizing fuel read with
  | nil =>
      obtain ⟨fuel, rfl⟩ := Nat.exists_eq_add_of_lt hf
      rw [List.append_nil]
      rfl
  | cons c t ih =>
      cases fuel with
      | zero => cases hf
      | succ fuel =>
          rw [List.forall_mem_cons] at ht
          have hpiece := piece_character opening c ht.1 (t.flatMap Printer.character ++ 0x22 :: rest) (by simp)
          have htail := ih (c :: read) ht.2 fuel (Nat.lt_of_succ_lt_succ hf)
          rw [List.flatMap_cons, List.append_assoc, stringBody, hpiece, ok_bind]
          rw [List.reverse_cons, List.append_assoc, List.singleton_append] at htail
          exact htail

theorem quoted_append (t rest : Text) :
    Printer.quoted t ++ rest = 0x22 :: (t.flatMap Printer.character ++ 0x22 :: rest) := by
  have hquote : Text.ofString "\"" = [0x22] := by decide
  rw [Printer.quoted, hquote, List.append_assoc, List.append_assoc]
  rfl

theorem value_of_quote {t rest : Text} (h : after? '"' t = some rest) (fuel nesting : Nat) :
    value (fuel + 1) nesting t = stringBody t fuel [] rest >>= fun (s, rest) => .ok (.string s, rest) := by
  simp only [value, h]
  rfl

theorem value_quoted (t rest : Text) (ht : ∀ c ∈ t, ¬c.IsSurrogate) (fuel nesting : Nat) (hf : t.length < fuel) :
    value (fuel + 1) nesting (Printer.quoted t ++ rest) = .ok (.string t, rest) := by
  have hbody := stringBody_flatMap (Printer.quoted t ++ rest) t rest [] ht fuel hf
  rw [quoted_append] at hbody ⊢
  rw [value_of_quote rfl, hbody, ok_bind]
  rfl

theorem fields_quoted (name t rest : Text) (hn : ∀ c ∈ name, ¬c.IsSurrogate) (ht : ∀ c ∈ t, ¬c.IsSurrogate)
    (fuel nesting : Nat) (read : List (Text × Json)) (hfn : name.length < fuel + 1) (hft : t.length < fuel) :
    fields (fuel + 2) nesting read (Printer.quoted name ++ (0x3A :: 0x20 :: (Printer.quoted t ++ rest))) =
      match after? '\x7d' (skipBlanks rest), after? ',' (skipBlanks rest) with
      | some rest, _ => .ok (.object ((name, .string t) :: read).reverse, rest)
      | none, some rest => fields (fuel + 1) nesting ((name, .string t) :: read) (skipBlanks rest)
      | none, none => stop .comma (skipBlanks rest) := by
  have hname := stringBody_flatMap (Printer.quoted name ++ (0x3A :: 0x20 :: (Printer.quoted t ++ rest))) name
    (0x3A :: 0x20 :: (Printer.quoted t ++ rest)) [] hn (fuel + 1) hfn
  have hvalue := value_quoted t rest ht fuel nesting hft
  have hblank : skipBlanks (0x20 :: (Printer.quoted t ++ rest)) = Printer.quoted t ++ rest := by
    rw [quoted_append]
    rfl
  have hquote (more : Text) : after? '"' (0x22 :: more) = some more := rfl
  have hcolon (more : Text) : skipBlanks (0x3A :: more) = 0x3A :: more := rfl
  have hcolon' (more : Text) : after? ':' (0x3A :: more) = some more := rfl
  rw [quoted_append] at hname ⊢
  simp only [fields, hquote, hname, ok_bind, hcolon, hcolon', hblank, hvalue, pure_eq]
  rfl

theorem length_le_quoted (t : Text) : t.length + 2 ≤ (Printer.quoted t).length := by
  have hcharacter (c : CodePoint) : 1 ≤ (Printer.character c).length := by
    unfold Printer.character
    repeat' split
    all_goals exact Nat.succ_le_succ (Nat.zero_le _)
  have hbody : t.length ≤ (t.flatMap Printer.character).length := by
    induction t with
    | nil => exact Nat.zero_le _
    | cons c t ih =>
        have hc := hcharacter c
        rw [List.flatMap_cons, List.length_append, List.length_cons]
        omega
  have hquoted := congrArg List.length (quoted_append t [])
  simp only [List.append_nil, List.length_cons, List.length_append, List.length_nil] at hquoted
  omega

def strings (texts : List (Text × Text)) : List (Text × Json) :=
  texts.map fun (name, t) => (name, .string t)

theorem renderFields_strings_append (name t : Text) (texts : List (Text × Text)) (rest : Text) :
    Printer.renderFields (strings ((name, t) :: texts)) ++ rest =
      Printer.quoted name ++ (0x3A :: 0x20 :: (Printer.quoted t ++
        match texts with
        | [] => rest
        | _ :: _ => 0x2C :: 0x20 :: (Printer.renderFields (strings texts) ++ rest))) := by
  have hcolon : Text.ofString ": " = [0x3A, 0x20] := by decide
  have hcomma : Text.ofString ", " = [0x2C, 0x20] := by decide
  cases texts with
  | nil =>
      simp only [strings, List.map_cons, List.map_nil, Printer.renderFields, Printer.render, hcolon, List.append_assoc]
      rfl
  | cons field texts =>
      simp only [strings, List.map_cons, Printer.renderFields, Printer.render, hcolon, hcomma, List.append_assoc]
      rfl

theorem fields_strings (texts : List (Text × Text)) (hne : texts ≠ [])
    (ht : ∀ field ∈ texts, (∀ c ∈ field.1, ¬c.IsSurrogate) ∧ ∀ c ∈ field.2, ¬c.IsSurrogate)
    (fuel nesting : Nat) (read : List (Text × Json)) (rest : Text)
    (hf : (Printer.renderFields (strings texts)).length ≤ fuel) :
    fields fuel nesting read (Printer.renderFields (strings texts) ++ 0x7D :: rest) =
      .ok (.object (read.reverse ++ strings texts), rest) := by
  induction texts generalizing fuel read with
  | nil => exact absurd rfl hne
  | cons field texts ih =>
      obtain ⟨name, t⟩ := field
      rw [List.forall_mem_cons] at ht
      have hlength := congrArg List.length (renderFields_strings_append name t texts [])
      have hname := length_le_quoted name
      have hvalue := length_le_quoted t
      rw [renderFields_strings_append]
      cases texts with
      | nil =>
          simp only [List.append_nil, List.length_append, List.length_cons] at hlength
          obtain ⟨fuel, rfl⟩ : ∃ k, fuel = k + 2 := ⟨fuel - 2, by omega⟩
          rw [fields_quoted name t _ ht.1.1 ht.1.2 fuel nesting read (by omega) (by omega), List.reverse_cons]
          rfl
      | cons field texts =>
          simp only [List.append_nil, List.length_append, List.length_cons] at hlength
          -- a field takes one of the fuel and is longer than that, so what is left is enough for the rest
          obtain ⟨fuel, rfl⟩ : ∃ k, fuel = k + 2 := ⟨fuel - 2, by omega⟩
          have hnext := ih (List.cons_ne_nil _ _) ht.2 (fuel + 1) ((name, .string t) :: read) (by omega)
          have hblank : skipBlanks (0x20 :: (Printer.renderFields (strings (field :: texts)) ++ 0x7D :: rest)) =
              Printer.renderFields (strings (field :: texts)) ++ 0x7D :: rest := by
            obtain ⟨name', t'⟩ := field
            rw [renderFields_strings_append, quoted_append]
            rfl
          rw [fields_quoted name t _ ht.1.1 ht.1.2 fuel nesting read (by omega) (by omega)]
          change fields (fuel + 1) nesting ((name, .string t) :: read) (skipBlanks (0x20 :: _)) = _
          rw [hblank, hnext, List.reverse_cons, List.append_assoc]
          rfl

theorem value_of_brace (more : Text) (fuel nesting : Nat) :
    value (fuel + 1) (nesting + 1) (0x7B :: 0x22 :: more) = fields fuel nesting [] (0x22 :: more) := by
  have hquote : after? '"' (0x7B :: 0x22 :: more) = none := rfl
  have hbracket : after? '[' (0x7B :: 0x22 :: more) = none := rfl
  have hbrace : after? '\x7b' (0x7B :: 0x22 :: more) = some (0x22 :: more) := rfl
  have hblank : skipBlanks (0x22 :: more) = 0x22 :: more := rfl
  have hempty : after? '\x7d' (0x22 :: more) = none := rfl
  simp only [value, hquote, hbracket, hbrace, hblank, hempty]

/-- The line that an object of strings is written on is read as the object. -/
theorem read_render_strings (texts : List (Text × Text)) (hne : texts ≠ [])
    (ht : ∀ field ∈ texts, (∀ c ∈ field.1, ¬c.IsSurrogate) ∧ ∀ c ∈ field.2, ¬c.IsSurrogate) :
    read (Printer.render (.object (strings texts)) ++ Text.ofString "\n") = .ok (.object (strings texts)) := by
  have hopen : Text.ofString "\x7b" = [0x7B] := by decide
  have hclose : Text.ofString "\x7d" = [0x7D] := by decide
  have hbreak : Text.ofString "\n" = [0x0A] := by decide
  have hline : Printer.render (.object (strings texts)) ++ Text.ofString "\n" =
      0x7B :: (Printer.renderFields (strings texts) ++ [0x7D, 0x0A]) := by
    simp only [Printer.render, hopen, hclose, hbreak, List.append_assoc]
    rfl
  have hstart : ∃ more, Printer.renderFields (strings texts) ++ [0x7D, 0x0A] = 0x22 :: more := by
    obtain ⟨⟨name, t⟩, texts, rfl⟩ := List.exists_cons_of_ne_nil hne
    rw [renderFields_strings_append, quoted_append]
    exact ⟨_, rfl⟩
  obtain ⟨more, hmore⟩ := hstart
  have hvalue (fuel nesting : Nat) (hf : (Printer.renderFields (strings texts)).length ≤ fuel) :
      value (fuel + 1) (nesting + 1) (0x7B :: (Printer.renderFields (strings texts) ++ [0x7D, 0x0A])) =
        .ok (.object (strings texts), [0x0A]) := by
    have hfields := fields_strings texts hne ht fuel nesting [] [0x0A] hf
    rw [hmore] at hfields ⊢
    rw [value_of_brace, hfields]
    rfl
  have hmark : ¬(0x7B :: (Printer.renderFields (strings texts) ++ [0x7D, 0x0A])).head? = some 0xFEFF := by
    rw [List.head?_cons]
    decide
  have hblank : skipBlanks (0x7B :: (Printer.renderFields (strings texts) ++ [0x7D, 0x0A])) =
      0x7B :: (Printer.renderFields (strings texts) ++ [0x7D, 0x0A]) := rfl
  have hwhole := hvalue (2 * (0x7B :: (Printer.renderFields (strings texts) ++ [0x7D, 0x0A])).length + 1) 983 (by
    rw [List.length_cons, List.length_append]
    omega)
  have hdocument : document maxNesting (0x7B :: (Printer.renderFields (strings texts) ++ [0x7D, 0x0A])) =
      .ok (.object (strings texts)) := by
    rw [document, if_neg hmark, hblank]
    change (value _ 984 _ >>= _) = _
    rw [hwhole]
    rfl
  rw [hline, read, readWithin, hdocument, mapError_ok]

end Json.Reader

namespace Json.Printer

theorem le_of_mem_ofString {s : String} (h : (Text.ofString s).all (0x20 ≤ ·.val)) :
    ∀ c ∈ Text.ofString s, 0x20 ≤ c.val := by
  intro c hc
  exact of_decide_eq_true (List.all_eq_true.mp h c hc)

theorem le_of_mem_fourDigits (n : Nat) : ∀ c ∈ Text.fourDigits n, 0x20 ≤ c.val := by
  have htable : ∀ m : Fin 16, 0x20 ≤ (CodePoint.hexDigit m).val := by decide
  intro c hc
  obtain ⟨m, hm, rfl⟩ := List.mem_map.mp hc
  have hlt : m < 16 := by
    simp only [List.mem_cons, List.not_mem_nil, or_false] at hm
    omega
  exact htable ⟨m, hlt⟩

theorem le_of_mem_unit (n : Nat) : ∀ c ∈ unit n, 0x20 ≤ c.val := by
  intro c hc
  rcases List.mem_append.mp hc with hc | hc
  · exact le_of_mem_ofString (by decide) c hc
  · exact le_of_mem_fourDigits n c hc

theorem le_of_mem_character (c : CodePoint) : ∀ d ∈ character c, 0x20 ≤ d.val := by
  unfold character
  repeat' split
  iterate 7 exact le_of_mem_ofString (by decide)
  next h =>
    intro d hd
    rw [List.mem_singleton.mp hd]
    exact h.1
  · exact le_of_mem_unit _
  · intro d hd
    rcases List.mem_append.mp hd with hd | hd
    all_goals exact le_of_mem_unit _ d hd

theorem le_of_mem_quoted (t : Text) : ∀ c ∈ quoted t, 0x20 ≤ c.val := by
  intro c hc
  rcases List.mem_append.mp hc with hc | hc
  · rcases List.mem_append.mp hc with hc | hc
    · exact le_of_mem_ofString (by decide) c hc
    · obtain ⟨d, _, hd⟩ := List.mem_flatMap.mp hc
      exact le_of_mem_character d c hd
  · exact le_of_mem_ofString (by decide) c hc

theorem le_of_mem_renderFields (texts : List (Text × Text)) :
    ∀ c ∈ renderFields (Reader.strings texts), 0x20 ≤ c.val := by
  induction texts with
  | nil => exact List.forall_mem_nil _
  | cons field texts ih =>
      obtain ⟨name, t⟩ := field
      have happend := Reader.renderFields_strings_append name t texts []
      rw [List.append_nil] at happend
      rw [happend]
      simp only [List.forall_mem_append, List.forall_mem_cons]
      refine ⟨le_of_mem_quoted name, by decide, by decide, le_of_mem_quoted t, ?_⟩
      cases texts with
      | nil => exact List.forall_mem_nil _
      | cons field texts =>
          simp only [List.append_nil, List.forall_mem_cons]
          exact ⟨by decide, by decide, ih⟩

theorem le_of_mem_render_strings (texts : List (Text × Text)) :
    ∀ c ∈ render (.object (Reader.strings texts)), 0x20 ≤ c.val := by
  simp only [render, List.forall_mem_append]
  exact ⟨⟨le_of_mem_ofString (by decide), le_of_mem_renderFields texts⟩, le_of_mem_ofString (by decide)⟩

end Json.Printer

end PakeRegistration
