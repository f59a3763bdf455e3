import FreeLunch.Python.Json

/-!
# JSON before more text

`scan_once` stops where its value ends, so it does not see what comes after an array, an object
or a string; a number or a word goes on for as long as it can, and what may stand behind it
inside a container ends it.  The fuel of the model plays no part in what is read.

Main results:

- Theorem `scanString_append`: a string literal is read in the same way before more text.
- Theorem `scanScalar_append`: so is a number or a word that a separator follows.
- Theorem `scan_extends`: so are values, items and members.
- Theorem `loads_append_of_ok`: an object with anything but whitespace behind it is a document
  with extra data.
-/

namespace FreeLunch
namespace Python

/-! ## Strings -/

theorem scanHex4_append {text rest : List Char} {n : Nat} (h : scanHex4 text = some (n, rest))
    (more : List Char) : scanHex4 (text ++ more) = some (n, rest ++ more) := by
  unfold scanHex4 at h
  split at h
  · rename_i a b c d tail
    simp only [Option.bind_eq_bind, Option.bind_eq_some_iff, Option.pure_def, Option.some.injEq,
      Prod.mk.injEq] at h
    obtain ⟨x, hx, y, hy, z, hz, w, hw, hn, rfl⟩ := h
    simp [scanHex4, hx, hy, hz, hw, hn]
  · cases h

/-- The character of an escape does not change with what follows the string, unless the text
ends in the middle of an escape. -/
theorem scanUnicodeEscape_append {text rest : List Char} {c : Char}
    (h : scanUnicodeEscape text = some (c, rest))
    (hwhole : ∀ tail, rest = '\\' :: 'u' :: tail → (scanHex4 tail).isSome)
    (hback : rest ≠ ['\\']) (hne : rest ≠ []) (more : List Char) :
    scanUnicodeEscape (text ++ more) = some (c, rest ++ more) := by
  unfold scanUnicodeEscape at h ⊢
  cases hhex : scanHex4 text with
  | none =>
      rw [hhex] at h
      cases h
  | some pair =>
      obtain ⟨n, after⟩ := pair
      rw [hhex] at h
      rw [scanHex4_append hhex]
      simp only [Option.bind_eq_bind, Option.bind_some] at h ⊢
      split at h
      · rename_i hhigh
        rw [if_pos hhigh]
        split at h
        · rename_i tail
          simp only [List.cons_append]
          cases hlow : scanHex4 tail with
          | some low =>
              obtain ⟨low, after'⟩ := low
              rw [hlow] at h
              rw [scanHex4_append hlow]
              dsimp only at h ⊢
              split at h
              · rename_i hpair
                rw [if_pos hpair]
                obtain ⟨rfl, rfl⟩ := Prod.mk.inj (Option.some.inj h)
                rfl
              · rename_i hpair
                rw [if_neg hpair]
                obtain ⟨rfl, rfl⟩ := Prod.mk.inj (Option.some.inj h)
                rfl
          | none =>
              rw [hlow] at h
              cases h
              have hsome := hwhole tail rfl
              rw [hlow] at hsome
              cases hsome
        · rename_i hother
          cases h
          -- no escape follows, whatever comes after
          have hnone : ∀ tail, rest ++ more ≠ '\\' :: 'u' :: tail := by
            intro tail heq
            cases rest with
            | nil => exact hne rfl
            | cons d rest =>
                rw [List.cons_append, List.cons.injEq] at heq
                obtain ⟨rfl, heq⟩ := heq
                cases rest with
                | nil => exact hback rfl
                | cons e rest =>
                    rw [List.cons_append, List.cons.injEq] at heq
                    exact hother rest (by rw [heq.1])
          split
          · rename_i tail heq
            exact absurd heq (hnone tail)
          · rfl
      · rename_i hhigh
        rw [if_neg hhigh]
        split at h
        · rename_i hlow
          rw [if_pos hlow]
          cases h
          rfl
        · rename_i hlow
          rw [if_neg hlow]
          cases h
          rfl

theorem scanString_escape {fuel : Nat} {acc : List Char} {c : Char} (hc : c ≠ 'u')
    (rest : List Char) :
    scanString (fuel + 1) acc ('\\' :: c :: rest) =
      match simpleEscape c with
      | some d => scanString fuel (d :: acc) rest
      | none => decodeError "Invalid \\escape" :=
  scanString.eq_5 acc fuel c rest hc

theorem scanString_plain {fuel : Nat} {acc : List Char} {c : Char} (hquote : c ≠ '"')
    (hback : c ≠ '\\') (rest : List Char) :
    scanString (fuel + 1) acc (c :: rest) =
      if c.toNat < 0x20 then decodeError "Invalid control character at"
      else scanString fuel (c :: acc) rest := by
  rw [scanString]
  · exact hquote
  · rintro tail rfl
    exact absurd rfl hback
  · rintro d tail rfl
    exact absurd rfl hback
  · rintro rfl
    exact absurd rfl hback

/-- A string that is read to its closing quote is read in the same way before more text. -/
theorem scanString_append {fuel fuel' : Nat} {acc text s rest : List Char}
    (h : scanString fuel acc text = .ok (s, rest)) (hle : fuel ≤ fuel') (more : List Char) :
    scanString fuel' acc (text ++ more) = .ok (s, rest ++ more) := by
  induction fuel generalizing fuel' acc text with
  | zero => cases h
  | succ fuel ih =>
      obtain ⟨k, rfl⟩ : ∃ k, fuel' = k + 1 := ⟨fuel' - 1, by omega⟩
      have hk : fuel ≤ k := by omega
      cases text with
      | nil => cases h
      | cons c tail =>
          by_cases hquote : c = '"'
          · subst hquote
            rw [scanString] at h
            cases h
            rw [List.cons_append, scanString]
          by_cases hback : c = '\\'
          · subst hback
            cases tail with
            | nil => cases h
            | cons d tail =>
                by_cases hu : d = 'u'
                · subst hu
                  rw [scanString] at h
                  rw [List.cons_append, List.cons_append, scanString]
                  cases hescape : scanUnicodeEscape tail with
                  | none =>
                      rw [hescape] at h
                      cases h
                  | some pair =>
                      obtain ⟨e, after⟩ := pair
                      rw [hescape] at h
                      dsimp only at h
                      rw [scanUnicodeEscape_append hescape]
                      · exact ih h hk
                      · rintro later rfl
                        cases fuel with
                        | zero => cases h
                        | succ fuel =>
                            rw [scanString] at h
                            cases hlater : scanUnicodeEscape later with
                            | none =>
                                rw [hlater] at h
                                cases h
                            | some pair =>
                                cases hhex : scanHex4 later with
                                | none =>
                                    unfold scanUnicodeEscape at hlater
                                    rw [hhex] at hlater
                                    cases hlater
                                | some _ => rfl
                      · rintro rfl
                        cases fuel <;> cases h
                      · rintro rfl
                        cases fuel <;> cases h
                · rw [scanString_escape hu] at h
                  rw [List.cons_append, List.cons_append, scanString_escape hu]
                  cases hescape : simpleEscape d with
                  | none =>
                      rw [hescape] at h
                      cases h
                  | some e =>
                      rw [hescape] at h
                      exact ih h hk
          · rw [scanString_plain hquote hback] at h
            rw [List.cons_append, scanString_plain hquote hback]
            split at h
            · cases h
            · rename_i hcontrol
              rw [if_neg hcontrol]
              exact ih h hk

/-! ## Numbers and words -/

/-- A character that can follow a value inside an array or an object. -/
def isFollower (c : Char) : Bool :=
  isJsonSpace c || c == ',' || c == ']' || c == '\x7d'

/-- What is left of a text begins with such a character. -/
def Followed (rest : List Char) : Prop :=
  ∃ c tail, rest = c :: tail ∧ isFollower c = true

/-- A follower is no part of a number. -/
theorem isFollower_cases {c : Char} (h : isFollower c = true) :
    asciiDigit c = none ∧ c ≠ '.' ∧ c ≠ 'e' ∧ c ≠ 'E' := by
  simp only [isFollower, isJsonSpace, Bool.or_eq_true, beq_iff_eq] at h
  rcases h with ((((((rfl | rfl) | rfl) | rfl) | rfl) | rfl) | rfl) <;> decide

/-- Digits before something else are the same digits before more text. -/
theorem spanDigits_append {text : List Char} (h : (spanDigits text).2 ≠ [])
    (more : List Char) :
    spanDigits (text ++ more) = ((spanDigits text).1, (spanDigits text).2 ++ more) := by
  induction text with
  | nil => exact absurd rfl h
  | cons c text ih =>
      rw [List.cons_append]
      unfold spanDigits at h ⊢
      cases hdigit : asciiDigit c with
      | none => rfl
      | some d =>
          rw [hdigit] at h
          dsimp only at h ⊢
          rw [ih h]

theorem scanFraction_of_head {c : Char} (hc : c ≠ '.') (rest : List Char) :
    scanFraction (c :: rest) = none := by
  unfold scanFraction
  split
  · rename_i heq
    exact absurd (List.cons.inj heq).1 hc
  · rfl

theorem scanFraction_point (rest : List Char) :
    scanFraction ('.' :: rest) =
      if (spanDigits rest).1 = [] then none else some (spanDigits rest) := by
  rw [scanFraction]
  generalize spanDigits rest = digits
  obtain ⟨ds, after⟩ := digits
  cases ds <;> rfl

theorem scanExponent_of_head {c : Char} (he : c ≠ 'e') (hE : c ≠ 'E') (rest : List Char) :
    scanExponent (c :: rest) = none := by
  rw [scanExponent, if_neg (by simp [he, hE])]

/-- The value of an exponent. -/
def signedDigits (negative : Bool) (ds : List Nat) : Int :=
  if negative then -(ofDigits ds : Int) else ofDigits ds

theorem scanExponent_mark {c : Char} (hc : c = 'e' ∨ c = 'E') (rest : List Char) :
    scanExponent (c :: rest) =
      if (spanDigits (splitSign rest).2).1 = [] then none
      else some (signedDigits (splitSign rest).1 (spanDigits (splitSign rest).2).1,
        (spanDigits (splitSign rest).2).2) := by
  rw [scanExponent, if_pos (by simpa using hc)]
  generalize splitSign rest = signed
  obtain ⟨negative, digits⟩ := signed
  dsimp only
  generalize spanDigits digits = spanned
  obtain ⟨ds, after⟩ := spanned
  cases ds <;> rfl

/-- A fraction before something else is the same fraction before more text. -/
theorem scanFraction_append {text rest : List Char} {ds : List Nat}
    (h : scanFraction text = some (ds, rest)) (hne : rest ≠ []) (more : List Char) :
    scanFraction (text ++ more) = some (ds, rest ++ more) := by
  cases text with
  | nil => cases h
  | cons c text =>
      by_cases hc : c = '.'
      · subst hc
        rw [scanFraction_point] at h
        split at h
        · cases h
        · rename_i hds
          have hspan := Option.some.inj h
          rw [List.cons_append, scanFraction_point,
            spanDigits_append (by rw [hspan]; exact hne) more, hspan]
          rw [hspan] at hds
          exact if_neg hds
      · rw [scanFraction_of_head hc] at h
        cases h

theorem splitSign_append {text : List Char} (h : text ≠ []) (more : List Char) :
    splitSign (text ++ more) = ((splitSign text).1, (splitSign text).2 ++ more) := by
  cases text with
  | nil => exact absurd rfl h
  | cons c text =>
      rw [List.cons_append]
      unfold splitSign
      split
      · rename_i heq
        obtain ⟨rfl, rfl⟩ := List.cons.inj heq
        rfl
      · rename_i heq
        obtain ⟨rfl, rfl⟩ := List.cons.inj heq
        rfl
      · rename_i hminus hplus
        split
        · rename_i heq
          exact absurd (congrArg (· :: (text ++ more)) (List.cons.inj heq).1) (hminus _)
        · rename_i heq
          exact absurd (congrArg (· :: (text ++ more)) (List.cons.inj heq).1) (hplus _)
        · rfl

/-- An exponent before something else is the same exponent before more text. -/
theorem scanExponent_append {text rest : List Char} {exponent : Int}
    (h : scanExponent text = some (exponent, rest)) (hne : rest ≠ []) (more : List Char) :
    scanExponent (text ++ more) = some (exponent, rest ++ more) := by
  cases text with
  | nil => cases h
  | cons c text =>
      by_cases hc : c = 'e' ∨ c = 'E'
      · rw [scanExponent_mark hc] at h
        split at h
        · cases h
        · rename_i hds
          obtain ⟨hvalue, hrest⟩ := Prod.mk.inj (Option.some.inj h)
          have htext : text ≠ [] := by
            rintro rfl
            exact hds rfl
          rw [List.cons_append, scanExponent_mark hc, splitSign_append htext more]
          dsimp only
          rw [spanDigits_append (by rw [hrest]; exact hne) more]
          dsimp only
          rw [if_neg hds, hvalue, hrest]
      · rw [not_or] at hc
        rw [scanExponent_of_head hc.1 hc.2] at h
        cases h

variable {F : Type} [Runtime F]

/-- The digits before the point of a number. -/
def scanWhole (text : List Char) : List Nat × List Char :=
  match text with
  | '0' :: rest => ([0], rest)
  | _ => spanDigits text

theorem scanWhole_append {text : List Char} (h : (scanWhole text).2 ≠ []) (more : List Char) :
    scanWhole (text ++ more) = ((scanWhole text).1, (scanWhole text).2 ++ more) := by
  cases text with
  | nil => exact absurd rfl h
  | cons c text =>
      by_cases hc : c = '0'
      · subst hc
        rfl
      · have hother : ∀ rest, scanWhole (c :: rest) = spanDigits (c :: rest) := by
          intro rest
          unfold scanWhole
          split
          · rename_i heq
            exact absurd (List.cons.inj heq).1 hc
          · rfl
        rw [hother] at h
        rw [List.cons_append, hother, hother, ← List.cons_append, spanDigits_append h]

/-- What a number is made of, from its parts. -/
theorem scanNumber_eq (negative : Bool) (text : List Char) :
    scanNumber (F := F) negative text =
      if (scanWhole text).1.isEmpty then decodeError "Expecting value"
      else
        match scanFraction (scanWhole text).2,
          scanExponent ((scanFraction (scanWhole text).2).elim (scanWhole text).2 Prod.snd) with
        | none, none =>
            if maxStrDigits < (scanWhole text).1.length then
              .error (.valueError "Exceeds the limit (4300 digits) for integer string conversion")
            else
              .ok (.int (signedDigits negative (scanWhole text).1), (scanWhole text).2)
        | some (fraction, rest'), none =>
            .ok (.float (Runtime.floatOfDecimal negative
              (ofDigits ((scanWhole text).1 ++ fraction)) (-(fraction.length : Int))), rest')
        | none, some (exponent, rest') =>
            .ok (.float (Runtime.floatOfDecimal negative (ofDigits (scanWhole text).1) exponent),
              rest')
        | some (fraction, _), some (exponent, rest') =>
            .ok (.float (Runtime.floatOfDecimal negative
              (ofDigits ((scanWhole text).1 ++ fraction)) (exponent - fraction.length)), rest') :=
  rfl

/-- A number before a follower is the same number before more text. -/
theorem scanNumber_append {negative : Bool} {text rest : List Char} {v : PyValue F}
    (h : scanNumber negative text = .ok (v, rest)) (hrest : Followed rest) (more : List Char) :
    scanNumber negative (text ++ more) = .ok (v, rest ++ more) := by
  obtain ⟨c, tail, rfl, hc⟩ := hrest
  obtain ⟨-, hpoint, he, hE⟩ := isFollower_cases hc
  have hne : c :: tail ≠ [] := List.cons_ne_nil c tail
  rw [scanNumber_eq] at h
  split at h
  · cases h
  · rename_i hwhole
    have happend : (scanWhole text).2 ≠ [] →
        scanWhole (text ++ more) = ((scanWhole text).1, (scanWhole text).2 ++ more) :=
      fun hleft => scanWhole_append hleft more
    rw [scanNumber_eq]
    generalize scanWhole text = whole at h hwhole happend
    obtain ⟨digits, left⟩ := whole
    dsimp only at h hwhole happend
    have hleft : left ≠ [] := by
      rintro rfl
      simp only [scanFraction, scanExponent, Option.elim_none] at h
      split at h <;> cases h
    rw [happend hleft, if_neg hwhole]
    dsimp only
    cases hfraction : scanFraction left with
    | none =>
        rw [hfraction] at h
        rw [Option.elim_none] at h
        cases hexponent : scanExponent left with
        | none =>
            rw [hexponent] at h
            dsimp only at h
            split at h
            · cases h
            · rename_i hlength
              cases h
              rw [List.cons_append, scanFraction_of_head hpoint, Option.elim_none,
                scanExponent_of_head he hE]
              exact if_neg hlength
        | some pair =>
            obtain ⟨exponent, after⟩ := pair
            rw [hexponent] at h
            cases h
            have hmark : ∀ more, scanFraction (left ++ more) = none := by
              intro more
              cases left with
              | nil => exact absurd rfl hleft
              | cons d left =>
                  refine scanFraction_of_head ?_ _
                  rintro rfl
                  rw [scanExponent_of_head (by decide) (by decide)] at hexponent
                  cases hexponent
            rw [hmark, Option.elim_none, scanExponent_append hexponent hne]
    | some pair =>
        obtain ⟨fraction, after⟩ := pair
        rw [hfraction, Option.elim_some] at h
        dsimp only at h
        cases hexponent : scanExponent after with
        | none =>
            rw [hexponent] at h
            cases h
            rw [scanFraction_append hfraction hne, Option.elim_some]
            dsimp only
            rw [List.cons_append, scanExponent_of_head he hE]
        | some pair =>
            obtain ⟨exponent, after'⟩ := pair
            rw [hexponent] at h
            cases h
            have hafter : after ≠ [] := by
              rintro rfl
              cases hexponent
            rw [scanFraction_append hfraction hafter, Option.elim_some]
            dsimp only
            rw [scanExponent_append hexponent hne]

/-- A number starts with a digit. -/
theorem exists_digit_of_scanNumber {negative : Bool} {text rest : List Char} {v : PyValue F}
    (h : scanNumber negative text = .ok (v, rest)) :
    ∃ c tail, text = c :: tail ∧ (asciiDigit c).isSome := by
  rw [scanNumber_eq] at h
  cases text with
  | nil => cases h
  | cons c tail =>
      refine ⟨c, tail, rfl, ?_⟩
      cases hdigit : asciiDigit c with
      | some d => rfl
      | none =>
          have hzero : c ≠ '0' := by
            rintro rfl
            cases hdigit
          have hwhole : scanWhole (c :: tail) = ([], c :: tail) := by
            unfold scanWhole
            split
            · rename_i heq
              exact absurd (List.cons.inj heq).1 hzero
            · rw [spanDigits, hdigit]
          rw [hwhole] at h
          cases h

theorem dropWord_eq_some {word text rest : List Char} (h : dropWord word text = some rest) :
    text = word ++ rest := by
  unfold dropWord at h
  split at h
  · rename_i hstart
    obtain ⟨tail, rfl⟩ := List.isPrefixOf_iff_prefix.mp hstart
    rw [List.drop_left] at h
    rw [Option.some.inj h]
  · cases h

theorem dropWord_of_head {c d : Char} (hne : d ≠ c) (word rest : List Char) :
    dropWord (c :: word) (d :: rest) = none := by
  refine if_neg ?_
  simp [startsWith, Ne.symm hne]

/-- A digit begins none of the words. -/
theorem scanScalar_digit {c : Char} (hc : (asciiDigit c).isSome) (rest : List Char) :
    scanScalar (F := F) (c :: rest) = scanNumber false (c :: rest) := by
  have hne : ∀ d : Char, asciiDigit d = none → c ≠ d := by
    rintro d hd rfl
    rw [hd] at hc
    cases hc
  have hdrop : ∀ (d : Char) (word : List Char), asciiDigit d = none →
      dropWord (d :: word) (c :: rest) = none :=
    fun d word hd => dropWord_of_head (hne d hd) word rest
  have hminus : c ≠ '-' := hne '-' rfl
  unfold scanScalar
  rw [show "null".toList = 'n' :: "ull".toList from rfl, hdrop 'n' _ rfl,
    show "true".toList = 't' :: "rue".toList from rfl, hdrop 't' _ rfl,
    show "false".toList = 'f' :: "alse".toList from rfl, hdrop 'f' _ rfl,
    show "NaN".toList = 'N' :: "aN".toList from rfl, hdrop 'N' _ rfl,
    show "Infinity".toList = 'I' :: "nfinity".toList from rfl, hdrop 'I' _ rfl,
    show "-Infinity".toList = '-' :: "Infinity".toList from rfl, hdrop '-' _ rfl]
  dsimp only
  split
  · rename_i heq
    exact absurd (List.cons.inj heq).1 hminus
  · rfl

/-- A sign before a digit begins none of the words. -/
theorem scanScalar_minus {c : Char} (hc : (asciiDigit c).isSome) (rest : List Char) :
    scanScalar (F := F) ('-' :: c :: rest) = scanNumber true (c :: rest) := by
  have hne : c ≠ 'I' := by
    rintro rfl
    cases hc
  have hword : dropWord "-Infinity".toList ('-' :: c :: rest) = none := by
    refine if_neg ?_
    simp [startsWith, Ne.symm hne]
  unfold scanScalar
  rw [hword]
  rfl

/-- A word or a number before a follower is the same before more text. -/
theorem scanScalar_append {text rest : List Char} {v : PyValue F}
    (h : scanScalar text = .ok (v, rest)) (hrest : Followed rest) (more : List Char) :
    scanScalar (text ++ more) = .ok (v, rest ++ more) := by
  unfold scanScalar at h
  split at h
  · rename_i heq
    cases h
    rw [dropWord_eq_some heq, List.append_assoc]
    rfl
  split at h
  · rename_i heq
    cases h
    rw [dropWord_eq_some heq, List.append_assoc]
    rfl
  split at h
  · rename_i heq
    cases h
    rw [dropWord_eq_some heq, List.append_assoc]
    rfl
  split at h
  · rename_i heq
    cases h
    rw [dropWord_eq_some heq, List.append_assoc]
    rfl
  split at h
  · rename_i heq
    cases h
    rw [dropWord_eq_some heq, List.append_assoc]
    rfl
  split at h
  · rename_i heq
    cases h
    rw [dropWord_eq_some heq, List.append_assoc]
    rfl
  split at h
  · obtain ⟨c, tail, rfl, hc⟩ := exists_digit_of_scanNumber h
    rw [List.cons_append, List.cons_append, scanScalar_minus hc, ← List.cons_append]
    exact scanNumber_append h hrest more
  · obtain ⟨c, tail, rfl, hc⟩ := exists_digit_of_scanNumber h
    rw [List.cons_append, scanScalar_digit hc, ← List.cons_append]
    exact scanNumber_append h hrest more

/-! ## Values -/

theorem skipSpace_append {text rest : List Char} {c : Char} (h : skipSpace text = c :: rest)
    (more : List Char) : skipSpace (text ++ more) = c :: (rest ++ more) := by
  unfold skipSpace at h ⊢
  rw [List.dropWhile_append, h]
  rfl

/-- What is left begins with a follower when its first character besides whitespace is one. -/
theorem followed_of_skipSpace {rest after : List Char} {c : Char}
    (h : skipSpace rest = c :: after) (hc : isFollower c = true) : Followed rest := by
  cases rest with
  | nil => cases h
  | cons d rest =>
      refine ⟨d, rest, rfl, ?_⟩
      by_cases hspace : isJsonSpace d = true
      · simp [isFollower, hspace]
      · have hsame : skipSpace (d :: rest) = d :: rest := List.dropWhile_cons_of_neg hspace
        rw [hsame] at h
        rw [(List.cons.inj h).1]
        exact hc

/-- A text that starts with a string, an array or an object. -/
def Delimited (text : List Char) : Prop :=
  text.head? = some '"' ∨ text.head? = some '[' ∨ text.head? = some '\x7b'

theorem scanValue_scalar {fuel depth : Nat} {text : List Char} (h : ¬ Delimited text) :
    scanValue (F := F) (fuel + 1) depth text = scanScalar text := by
  rw [scanValue]
  · rintro rest rfl
    exact h (.inl rfl)
  · rintro rest rfl
    exact h (.inr (.inl rfl))
  · rintro rest rfl
    exact h (.inr (.inr rfl))

theorem scanValue_string (fuel depth : Nat) (text : List Char) :
    scanValue (F := F) (fuel + 1) depth ('"' :: text) =
      (scanString (fuel + 1) [] text).bind fun read =>
        .ok (.str (String.ofList read.1), read.2) :=
  rfl

/-- An array that is not closed at once has items. -/
theorem scanValue_list (fuel depth : Nat) (text : List Char) :
    scanValue (F := F) (fuel + 1) (depth + 1) ('[' :: text) =
      match skipSpace text with
      | ']' :: rest => .ok (.list [], rest)
      | text => (scanItems fuel depth text).bind fun read => .ok (.list read.1, read.2) :=
  rfl

/-- An object that is not closed at once has members. -/
theorem scanValue_dict (fuel depth : Nat) (text : List Char) :
    scanValue (F := F) (fuel + 1) (depth + 1) ('\x7b' :: text) =
      match skipSpace text with
      | '\x7d' :: rest => .ok (.dict [], rest)
      | text => (scanMembers fuel depth [] text).bind fun read => .ok (.dict read.1, read.2) :=
  rfl

theorem scanValue_items {text : List Char} (h : ∀ rest, skipSpace text ≠ ']' :: rest)
    (fuel depth : Nat) :
    scanValue (F := F) (fuel + 1) (depth + 1) ('[' :: text) =
      (scanItems fuel depth (skipSpace text)).bind fun read => .ok (.list read.1, read.2) := by
  rw [scanValue_list]
  split
  · rename_i heq
    exact absurd heq (h _)
  · rfl

theorem scanValue_members {text : List Char} (h : ∀ rest, skipSpace text ≠ '\x7d' :: rest)
    (fuel depth : Nat) :
    scanValue (F := F) (fuel + 1) (depth + 1) ('\x7b' :: text) =
      (scanMembers fuel depth [] (skipSpace text)).bind fun read =>
        .ok (.dict read.1, read.2) := by
  rw [scanValue_dict]
  split
  · rename_i heq
    exact absurd heq (h _)
  · rfl

/-- The last item of an array. -/
theorem scanItems_last {fuel depth : Nat} {text left rest : List Char} {v : PyValue F}
    (hvalue : scanValue fuel depth text = .ok (v, left)) (hclose : skipSpace left = ']' :: rest) :
    scanItems (fuel + 1) depth text = .ok ([v], rest) := by
  rw [scanItems, hvalue]
  simp only [bind, Except.bind]
  rw [hclose]
  rfl

/-- An item with more items after it. -/
theorem scanItems_more {fuel depth : Nat} {text left after : List Char} {v : PyValue F}
    (hvalue : scanValue fuel depth text = .ok (v, left)) (hcomma : skipSpace left = ',' :: after) :
    scanItems (fuel + 1) depth text =
      (scanItems fuel depth (skipSpace after)).bind fun read => .ok (v :: read.1, read.2) := by
  rw [scanItems, hvalue]
  simp only [bind, Except.bind]
  rw [hcomma]
  rfl

/-- Where the items of an array end. -/
theorem scanItems_cases {fuel depth : Nat} {text rest : List Char} {items : List (PyValue F)}
    (h : scanItems (fuel + 1) depth text = .ok (items, rest)) :
    ∃ v left, scanValue fuel depth text = .ok (v, left) ∧
      (skipSpace left = ']' :: rest ∧ items = [v] ∨
        ∃ after items', skipSpace left = ',' :: after ∧
          scanItems fuel depth (skipSpace after) = .ok (items', rest) ∧ items = v :: items') := by
  rw [scanItems] at h
  cases hvalue : scanValue (F := F) fuel depth text with
  | error exc =>
      rw [hvalue] at h
      cases h
  | ok read =>
      obtain ⟨v, left⟩ := read
      refine ⟨v, left, rfl, ?_⟩
      rw [hvalue] at h
      simp only [bind, Except.bind] at h
      split at h
      · rename_i after hclose
        cases h
        exact .inl ⟨hclose, rfl⟩
      · rename_i after hcomma
        split at h
        · cases h
        · rename_i read hmore
          cases h
          exact .inr ⟨after, _, hcomma, hmore, rfl⟩
      · cases h

theorem scanMembers_cons (fuel depth : Nat) (before : List (String × PyValue F))
    (text : List Char) :
    scanMembers (fuel + 1) depth before ('"' :: text) =
      (scanString (fuel + 1) [] text).bind fun read =>
        match skipSpace read.2 with
        | ':' :: rest =>
            (scanValue fuel depth (skipSpace rest)).bind fun value =>
              match skipSpace value.2 with
              | '\x7d' :: after => .ok (dictSet before (String.ofList read.1) value.1, after)
              | ',' :: after =>
                  scanMembers fuel depth (dictSet before (String.ofList read.1) value.1)
                    (skipSpace after)
              | _ => decodeError "Expecting ',' delimiter"
        | _ => decodeError "Expecting ':' delimiter" :=
  rfl

/-- The last member of an object. -/
theorem scanMembers_last {fuel depth : Nat} {before : List (String × PyValue F)}
    {text key left after left' rest : List Char} {v : PyValue F}
    (hkey : scanString (fuel + 1) [] text = .ok (key, left))
    (hcolon : skipSpace left = ':' :: after)
    (hvalue : scanValue fuel depth (skipSpace after) = .ok (v, left'))
    (hclose : skipSpace left' = '\x7d' :: rest) :
    scanMembers (fuel + 1) depth before ('"' :: text) =
      .ok (dictSet before (String.ofList key) v, rest) := by
  rw [scanMembers_cons, hkey]
  dsimp only [Except.bind]
  rw [hcolon]
  change (scanValue fuel depth (skipSpace after)).bind _ = _
  rw [hvalue]
  dsimp only [Except.bind]
  rw [hclose]
  rfl

/-- A member with more members after it. -/
theorem scanMembers_more {fuel depth : Nat} {before : List (String × PyValue F)}
    {text key left after left' after' : List Char} {v : PyValue F}
    (hkey : scanString (fuel + 1) [] text = .ok (key, left))
    (hcolon : skipSpace left = ':' :: after)
    (hvalue : scanValue fuel depth (skipSpace after) = .ok (v, left'))
    (hcomma : skipSpace left' = ',' :: after') :
    scanMembers (fuel + 1) depth before ('"' :: text) =
      scanMembers fuel depth (dictSet before (String.ofList key) v) (skipSpace after') := by
  rw [scanMembers_cons, hkey]
  dsimp only [Except.bind]
  rw [hcolon]
  change (scanValue fuel depth (skipSpace after)).bind _ = _
  rw [hvalue]
  dsimp only [Except.bind]
  rw [hcomma]
  rfl

/-- Where the members of an object end. -/
theorem scanMembers_cases {fuel depth : Nat} {before members : List (String × PyValue F)}
    {text rest : List Char} (h : scanMembers (fuel + 1) depth before text = .ok (members, rest)) :
    ∃ tail key left after v left', text = '"' :: tail ∧
      scanString (fuel + 1) [] tail = .ok (key, left) ∧ skipSpace left = ':' :: after ∧
      scanValue fuel depth (skipSpace after) = .ok (v, left') ∧
      (skipSpace left' = '\x7d' :: rest ∧ members = dictSet before (String.ofList key) v ∨
        ∃ after', skipSpace left' = ',' :: after' ∧
          scanMembers fuel depth (dictSet before (String.ofList key) v) (skipSpace after') =
            .ok (members, rest)) := by
  unfold scanMembers at h
  split at h
  · rename_i tail
    cases hkey : scanString (fuel + 1) [] tail with
    | error exc =>
        rw [hkey] at h
        cases h
    | ok read =>
        obtain ⟨key, left⟩ := read
        rw [hkey] at h
        simp only [bind, Except.bind] at h
        split at h
        · rename_i after hcolon
          cases hvalue : scanValue (F := F) fuel depth (skipSpace after) with
          | error exc =>
              rw [hvalue] at h
              cases h
          | ok read =>
              obtain ⟨v, left'⟩ := read
              rw [hvalue] at h
              dsimp only at h
              refine ⟨tail, key, left, after, v, left', rfl, hkey, hcolon, hvalue, ?_⟩
              split at h
              · rename_i after' hclose
                cases h
                exact .inl ⟨hclose, rfl⟩
              · rename_i after' hcomma
                exact .inr ⟨after', hcomma, h⟩
              · cases h
        · cases h
  · cases h

/-- A member starts with a quote. -/
theorem exists_quote_of_scanMembers {fuel depth : Nat} {before members : List (String × PyValue F)}
    {text rest : List Char} (h : scanMembers fuel depth before text = .ok (members, rest)) :
    ∃ tail, text = '"' :: tail := by
  cases fuel with
  | zero => cases h
  | succ fuel =>
      unfold scanMembers at h
      split at h
      · exact ⟨_, rfl⟩
      · cases h

/-- A value starts somewhere. -/
theorem ne_nil_of_scanValue {fuel depth : Nat} {text rest : List Char} {v : PyValue F}
    (h : scanValue fuel depth text = .ok (v, rest)) : text ≠ [] := by
  rintro rfl
  cases fuel <;> cases h

theorem ne_nil_of_scanItems {fuel depth : Nat} {text rest : List Char} {items : List (PyValue F)}
    (h : scanItems fuel depth text = .ok (items, rest)) : text ≠ [] := by
  rintro rfl
  cases fuel with
  | zero => cases h
  | succ fuel =>
      rw [scanItems] at h
      cases fuel <;> cases h

/-- Whitespace before something is skipped in the same way before more text. -/
theorem skipSpace_append_of_ne {text : List Char} (h : skipSpace text ≠ []) (more : List Char) :
    skipSpace (text ++ more) = skipSpace text ++ more := by
  cases hskip : skipSpace text with
  | nil => exact absurd hskip h
  | cons c rest => exact skipSpace_append hskip more

variable (F) in
/-- Values are read in the same way with more fuel and before more text. -/
def ValuesExtend (fuel : Nat) : Prop :=
  ∀ depth text v rest, scanValue (F := F) fuel depth text = .ok (v, rest) →
    Followed rest ∨ Delimited text → ∀ fuel', fuel ≤ fuel' → ∀ more,
      scanValue fuel' depth (text ++ more) = .ok (v, rest ++ more)

variable (F) in
/-- So are the items of an array. -/
def ItemsExtend (fuel : Nat) : Prop :=
  ∀ depth text items rest, scanItems (F := F) fuel depth text = .ok (items, rest) →
    ∀ fuel', fuel ≤ fuel' → ∀ more,
      scanItems fuel' depth (text ++ more) = .ok (items, rest ++ more)

variable (F) in
/-- So are the members of an object. -/
def MembersExtend (fuel : Nat) : Prop :=
  ∀ depth before text members rest,
    scanMembers (F := F) fuel depth before text = .ok (members, rest) →
      ∀ fuel', fuel ≤ fuel' → ∀ more,
        scanMembers fuel' depth before (text ++ more) = .ok (members, rest ++ more)

theorem itemsExtend_succ {fuel : Nat} (hvalues : ValuesExtend F fuel)
    (hitems : ItemsExtend F fuel) : ItemsExtend F (fuel + 1) := by
  intro depth text items rest h fuel' hle more
  obtain ⟨k, rfl⟩ : ∃ k, fuel' = k + 1 := ⟨fuel' - 1, by omega⟩
  have hk : fuel ≤ k := by omega
  obtain ⟨v, left, hvalue, hlast | hmore⟩ := scanItems_cases h
  · obtain ⟨hclose, rfl⟩ := hlast
    have hfollowed := followed_of_skipSpace hclose rfl
    exact scanItems_last (hvalues depth text v left hvalue (.inl hfollowed) k hk more)
      (skipSpace_append hclose more)
  · obtain ⟨after, items', hcomma, hitem, rfl⟩ := hmore
    have hfollowed := followed_of_skipSpace hcomma rfl
    rw [scanItems_more (hvalues depth text v left hvalue (.inl hfollowed) k hk more)
      (skipSpace_append hcomma more), skipSpace_append_of_ne (ne_nil_of_scanItems hitem),
      hitems depth _ items' _ hitem k hk more]
    rfl

theorem membersExtend_succ {fuel : Nat} (hvalues : ValuesExtend F fuel)
    (hmembers : MembersExtend F fuel) : MembersExtend F (fuel + 1) := by
  intro depth before text members rest h fuel' hle more
  obtain ⟨k, rfl⟩ : ∃ k, fuel' = k + 1 := ⟨fuel' - 1, by omega⟩
  have hk : fuel ≤ k := by omega
  obtain ⟨tail, key, left, after, v, left', rfl, hkey, hcolon, hvalue, hend⟩ :=
    scanMembers_cases h
  have hkey' := scanString_append hkey (Nat.succ_le_succ hk) more
  have hcolon' := skipSpace_append hcolon more
  have hskip := skipSpace_append_of_ne (ne_nil_of_scanValue hvalue) more
  rw [List.cons_append]
  rcases hend with ⟨hclose, rfl⟩ | ⟨after', hcomma, hmore⟩
  · have hfollowed := followed_of_skipSpace hclose rfl
    have hvalue' := hvalues depth _ v left' hvalue (.inl hfollowed) k hk more
    rw [← hskip] at hvalue'
    exact scanMembers_last hkey' hcolon' hvalue' (skipSpace_append hclose more)
  · have hfollowed := followed_of_skipSpace hcomma rfl
    have hvalue' := hvalues depth _ v left' hvalue (.inl hfollowed) k hk more
    rw [← hskip] at hvalue'
    obtain ⟨later, hlater⟩ := exists_quote_of_scanMembers hmore
    rw [scanMembers_more hkey' hcolon' hvalue' (skipSpace_append hcomma more),
      skipSpace_append hlater, ← List.cons_append, ← hlater]
    exact hmembers depth _ _ members _ hmore k hk more

theorem valuesExtend_succ {fuel : Nat} (hitems : ItemsExtend F fuel)
    (hmembers : MembersExtend F fuel) : ValuesExtend F (fuel + 1) := by
  intro depth text v rest h hside fuel' hle more
  obtain ⟨k, rfl⟩ : ∃ k, fuel' = k + 1 := ⟨fuel' - 1, by omega⟩
  have hk : fuel ≤ k := by omega
  by_cases hdelimited : Delimited text
  · cases text with
    | nil => rcases hdelimited with h | h | h <;> cases h
    | cons c tail =>
        rw [List.cons_append]
        rcases hdelimited with hc | hc | hc
        · obtain rfl := Option.some.inj hc
          rw [scanValue_string] at h ⊢
          cases hstring : scanString (fuel + 1) [] tail with
          | error exc =>
              rw [hstring] at h
              cases h
          | ok pair =>
              obtain ⟨s, left⟩ := pair
              rw [hstring] at h
              cases h
              rw [scanString_append hstring (by omega) more]
              rfl
        · obtain rfl := Option.some.inj hc
          cases depth with
          | zero => cases h
          | succ depth =>
              by_cases hclose : ∃ after, skipSpace tail = ']' :: after
              · obtain ⟨after, hclose⟩ := hclose
                rw [scanValue_list, hclose] at h
                cases h
                rw [scanValue_list, skipSpace_append hclose]
                rfl
              · have hopen : ∀ after, skipSpace tail ≠ ']' :: after :=
                  fun after hclosed => hclose ⟨after, hclosed⟩
                rw [scanValue_items hopen] at h
                cases hitem : scanItems (F := F) fuel depth (skipSpace tail) with
                | error exc =>
                    rw [hitem] at h
                    cases h
                | ok pair =>
                    obtain ⟨items, left⟩ := pair
                    rw [hitem] at h
                    cases h
                    have hskip := skipSpace_append_of_ne (ne_nil_of_scanItems hitem) more
                    have hmore : ∀ after, skipSpace (tail ++ more) ≠ ']' :: after := by
                      intro after hclosed
                      rw [hskip] at hclosed
                      cases hcons : skipSpace tail with
                      | nil => exact ne_nil_of_scanItems hitem hcons
                      | cons d later =>
                          rw [hcons, List.cons_append] at hclosed
                          rw [(List.cons.inj hclosed).1] at hcons
                          exact hopen later hcons
                    rw [scanValue_items hmore, hskip, hitems depth _ items _ hitem k hk more]
                    rfl
        · obtain rfl := Option.some.inj hc
          cases depth with
          | zero => cases h
          | succ depth =>
              by_cases hclose : ∃ after, skipSpace tail = '\x7d' :: after
              · obtain ⟨after, hclose⟩ := hclose
                rw [scanValue_dict, hclose] at h
                cases h
                rw [scanValue_dict, skipSpace_append hclose]
                rfl
              · have hopen : ∀ after, skipSpace tail ≠ '\x7d' :: after :=
                  fun after hclosed => hclose ⟨after, hclosed⟩
                rw [scanValue_members hopen] at h
                cases hmember : scanMembers (F := F) fuel depth [] (skipSpace tail) with
                | error exc =>
                    rw [hmember] at h
                    cases h
                | ok pair =>
                    obtain ⟨members, left⟩ := pair
                    rw [hmember] at h
                    cases h
                    obtain ⟨later, hlater⟩ := exists_quote_of_scanMembers hmember
                    have hskip := skipSpace_append hlater more
                    have hmore : ∀ after, skipSpace (tail ++ more) ≠ '\x7d' :: after := by
                      intro after hclosed
                      rw [hskip] at hclosed
                      cases hclosed
                    have hrest := hmembers depth [] _ members _ hmember k hk more
                    rw [hlater, List.cons_append] at hrest
                    rw [scanValue_members hmore, hskip, hrest]
                    rfl
  · rw [scanValue_scalar hdelimited] at h
    have hfollowed := hside.resolve_right hdelimited
    have hmore : ¬ Delimited (text ++ more) := by
      cases text with
      | nil => cases h
      | cons c tail => exact hdelimited
    rw [scanValue_scalar hmore]
    exact scanScalar_append h hfollowed more

/-- Whatever the scanners read, they read in the same way with more fuel and before more
text. -/
theorem scan_extends (fuel : Nat) :
    ValuesExtend F fuel ∧ ItemsExtend F fuel ∧ MembersExtend F fuel := by
  induction fuel with
  | zero =>
      refine ⟨?_, ?_, ?_⟩
      · intro depth text v rest h
        cases h
      · intro depth text items rest h
        cases h
      · intro depth before text members rest h
        cases h
  | succ fuel ih =>
      obtain ⟨hvalues, hitems, hmembers⟩ := ih
      exact ⟨valuesExtend_succ hitems hmembers, itemsExtend_succ hvalues hitems,
        membersExtend_succ hvalues hmembers⟩

/-- After an object that is the whole of a document there is nothing but whitespace: with
anything else behind it the document has extra data. -/
theorem loads_append_of_ok {text more : List Char} {v : PyValue F}
    (hobject : text.head? = some '\x7b') (h : loads text = .ok v) (hmore : skipSpace more ≠ []) :
    loads (F := F) (text ++ more) = decodeError "Extra data" := by
  obtain ⟨tail, rfl⟩ : ∃ tail, text = '\x7b' :: tail := by
    cases text with
    | nil => cases hobject
    | cons c tail => exact ⟨tail, by rw [Option.some.inj hobject]⟩
  have hbom : ∀ rest, startsWith ('\x7b' :: rest) ['\ufeff'] = false := fun rest => rfl
  have hskip : ∀ rest, skipSpace ('\x7b' :: rest) = '\x7b' :: rest := fun rest => rfl
  unfold loads at h ⊢
  rw [List.cons_append, hbom, hskip]
  rw [hbom, hskip] at h
  rw [if_neg Bool.false_ne_true] at h ⊢
  cases hvalue : scanValue (F := F) (2 * ('\x7b' :: tail).length + 2) (Runtime.recursionLimit F)
      ('\x7b' :: tail) with
  | error exc =>
      rw [hvalue] at h
      cases h
  | ok pair =>
      obtain ⟨w, rest⟩ := pair
      rw [hvalue] at h
      simp only [bind, Except.bind] at h ⊢
      split at h
      · rename_i hempty
        have hwhole := (scan_extends _).1 _ _ _ _ hvalue (.inr (.inr (.inr rfl)))
          (2 * ('\x7b' :: (tail ++ more)).length + 2)
          (by simp only [List.length_cons, List.length_append]; omega) more
        rw [List.cons_append] at hwhole
        rw [hwhole]
        dsimp only
        have hleft : skipSpace (rest ++ more) = skipSpace more := by
          unfold skipSpace at hempty ⊢
          rw [List.dropWhile_append, if_pos hempty]
        rw [hleft, if_neg (by simpa using hmore)]
      · cases h

end Python
end FreeLunch
