import Mathlib.Data.List.Basic
import Mathlib.Order.Lattice
import Mathlib.Order.Nat
import ScanRoster.Toml.Scalar
import ScanRoster.Toml.Writing

/-!
# Written texts are read back

Every text has a written form, and reading takes this form off the start of what follows and gives the
text back (`text?_encodeText`).  The forms differ in which characters stand for themselves; between
marks of three, up to two of the same kind may stand at the end of the text, so the run of marks there
is read as a whole (`closing_append`).
-/

namespace ScanRoster.Toml

/-! ## Characters -/

theorem isPlain_of_not_needsCode {c : Char} (hcode : needsCode c = false) (hline : c ≠ '\n') :
    isPlain c = true := by
  simp only [needsCode, isPlain, Bool.or_eq_false_iff, Bool.and_eq_false_iff, Bool.or_eq_true,
    Bool.and_eq_true, decide_eq_true_eq, decide_eq_false_iff_not, bne_eq_false_iff_eq, beq_iff_eq,
    beq_eq_false_iff_ne] at *
  grind

theorem needsCode_lt {c : Char} (h : needsCode c = true) : c.toNat < 0x80 := by
  simp only [needsCode, Bool.or_eq_true, Bool.and_eq_true, decide_eq_true_eq, beq_iff_eq] at h
  omega

/-- The four digits that stand for a character of ASCII. -/
theorem number?_digits : ∀ n < 0x80,
    let digits := (Nat.toDigits 16 n).map Char.toUpper
    let padded := List.replicate (4 - digits.length) '0' ++ digits
    padded.length = 4 ∧ number? 16 padded = some n := by
  decide +kernel

theorem codeEscape?_append {digits : List Char} {c : Char}
    (hvalue : number? 16 digits = some c.toNat) (rest : List Char) :
    codeEscape? digits.length (digits ++ rest) = some (c, rest) := by
  have hlength : ¬ (digits ++ rest).length < digits.length := by simp
  rw [codeEscape?, if_neg hlength, List.take_left, hvalue, List.drop_left]
  exact dif_pos c.valid

/-- Characters that have an escape. -/
def HasEscape (c : Char) : Prop :=
  c = '"' ∨ c = '\\' ∨ c = '\t' ∨ c = '\n' ∨ needsCode c = true

/-- An escape is read as the character that it stands for. -/
theorem encodeEscape_eq {c : Char} (h : HasEscape c) :
    ∃ e, encodeEscape c = '\\' :: e ∧ ∀ rest, escape? (e ++ rest) = some (c, rest) := by
  unfold encodeEscape
  simp only [beq_iff_eq]
  split_ifs with hb ht hn hf hr hq hs
  case neg =>
    have hcode : needsCode c = true := by simp_all [HasEscape]
    obtain ⟨hlength, hvalue⟩ := number?_digits c.toNat (needsCode_lt hcode)
    refine ⟨_, rfl, fun rest => ?_⟩
    have hread := codeEscape?_append hvalue rest
    rw [hlength] at hread
    simpa [escape?] using hread
  all_goals
    subst c
    exact ⟨_, rfl, fun rest => rfl⟩

/-! ## Texts between quotation marks -/

/-- A piece between quotation marks stands for a character and is read on its own. -/
structure StandsFor (many : Bool) (c : Char) (piece : List Char) : Prop where
  read : ∀ fuel rest, basicText many (fuel + 1) (piece ++ rest) =
    (basicText many fuel rest).map fun (t, r) => (c :: t, r)
  head : ∃ first more, piece = first :: more ∧ first ≠ '"' ∧ first ≠ '\r' ∧
    (first = '\n' → c = '\n')

theorem StandsFor.of_hasEscape {c : Char} (h : HasEscape c) (many : Bool) :
    StandsFor many c (encodeEscape c) := by
  obtain ⟨e, hescape, hread⟩ := encodeEscape_eq h
  refine ⟨fun fuel rest => ?_, '\\', e, hescape, by decide, by decide, by simp⟩
  rw [hescape, List.cons_append, basicText, hread]

theorem StandsFor.of_isPlain {c : Char} (hplain : isPlain c = true) (hquote : c ≠ '"')
    (hslash : c ≠ '\\') (many : Bool) : StandsFor many c [c] := by
  have hreturn : c ≠ '\r' := by
    rintro rfl
    exact absurd hplain (by decide)
  refine ⟨fun fuel rest => ?_, c, [], rfl, hquote, hreturn, id⟩
  rw [List.singleton_append, basicText]
  · rw [if_pos hplain]
  all_goals simp_all

theorem StandsFor.newline : StandsFor true '\n' ['\n'] := by
  refine ⟨fun fuel rest => ?_, '\n', [], rfl, by decide, by decide, id⟩
  rw [List.singleton_append, basicText]
  · simp [isPlain, lineEnd?]
  all_goals simp

/-- A character is written as a piece that stands for it, but for a quotation mark that stands for
itself. -/
theorem encodeBasic_cons {many : Bool} {quotes : Nat} {c : Char}
    (h : c ≠ '"' ∨ many = false ∨ 2 ≤ quotes) (s : List Char) :
    ∃ piece, encodeBasic many quotes (c :: s) = piece ++ encodeBasic many 0 s ∧
      StandsFor many c piece := by
  rw [encodeBasic]
  by_cases hquote : c = '"'
  · have hescape : ¬ (many && quotes < 2) = true := by
      rw [Bool.and_eq_true, decide_eq_true_eq]
      rintro ⟨hmany, hfew⟩
      rcases h with h | h | h
      · exact h hquote
      · exact Bool.false_ne_true (h.symm.trans hmany)
      · omega
    rw [if_pos hquote, if_neg hescape]
    exact ⟨_, rfl, .of_hasEscape (.inl hquote) many⟩
  · rw [if_neg hquote]
    split_ifs with hcode
    · refine ⟨_, rfl, .of_hasEscape ?_ many⟩
      simp only [Bool.or_eq_true, Bool.and_eq_true, decide_eq_true_eq] at hcode
      unfold HasEscape
      tauto
    · simp only [Bool.or_eq_true, Bool.and_eq_true, decide_eq_true_eq, not_or] at hcode
      refine ⟨[c], rfl, ?_⟩
      by_cases hline : c = '\n'
      · obtain rfl : many = true := by simpa [hline] using hcode.2
        exact hline ▸ .newline
      · have hplain := isPlain_of_not_needsCode (Bool.eq_false_iff.mpr hcode.1.2) hline
        exact .of_isPlain hplain hquote hcode.1.1.1 many

/-- The inside of a text between quotation marks is no shorter than the text. -/
theorem length_le_encodeBasic (many : Bool) (quotes : Nat) (s : List Char) :
    s.length ≤ (encodeBasic many quotes s).length := by
  induction s generalizing quotes with
  | nil => exact Nat.zero_le _
  | cons c s ih =>
      by_cases h : c ≠ '"' ∨ many = false ∨ 2 ≤ quotes
      · obtain ⟨piece, hwritten, -, first, more, rfl, -, -, -⟩ := encodeBasic_cons h s
        have hlength := ih 0
        rw [hwritten]
        simp only [List.length_append, List.length_cons]
        omega
      · obtain ⟨rfl, rfl, hfew⟩ : c = '"' ∧ many = true ∧ quotes < 2 := by simpa using h
        simpa [encodeBasic, hfew] using ih (quotes + 1)

/-- A text on one line between quotation marks. -/
theorem basicText_encodeBasic {s : List Char} {fuel : Nat} (hfuel : s.length < fuel)
    (quotes : Nat) (rest : List Char) :
    basicText false fuel (encodeBasic false quotes s ++ '"' :: rest) = some (s, rest) := by
  induction s generalizing fuel quotes with
  | nil =>
      obtain ⟨fuel, rfl⟩ := Nat.exists_eq_add_one.mpr hfuel
      rfl
  | cons c s ih =>
      obtain ⟨fuel, rfl⟩ := Nat.exists_eq_add_one_of_ne_zero (Nat.ne_zero_of_lt hfuel)
      have hplain : c ≠ '"' ∨ false = false ∨ 2 ≤ quotes := .inr (.inl rfl)
      obtain ⟨piece, hwritten, hstands⟩ := encodeBasic_cons hplain s
      rw [hwritten, List.append_assoc, hstands.read, ih (Nat.lt_of_succ_lt_succ hfuel)]
      rfl

/-! ## Marks at the end of a text of several lines -/

/-- Of a run of marks the last three close the text, and up to two before them belong to it. -/
theorem closing_append {mark : Char} {count : Nat} (hcount : count ≤ 2) {rest : List Char}
    (hrest : rest.head? ≠ some mark) :
    closing mark (List.replicate (count + 3) mark ++ rest) =
      some (List.replicate count mark, rest) := by
  have hafter : rest.takeWhile (· == mark) = [] := by
    cases rest with
    | nil => rfl
    | cons c rest =>
        have hne : c ≠ mark := fun heq => hrest (congrArg some heq)
        simp [hne]
  have hrun : (List.replicate (count + 3) mark ++ rest).takeWhile (· == mark) =
      List.replicate (count + 3) mark := by
    rw [List.takeWhile_append_of_pos (by simp [List.mem_replicate]), hafter, List.append_nil]
  have hlength : (List.replicate (count + 3) mark).length = count + 3 := List.length_replicate
  rw [closing, hrun]
  simp only [hlength]
  rw [if_neg (by omega), if_pos (by omega), Nat.add_sub_cancel, List.drop_left' hlength]

section

variable {fuel : Nat} {rest : List Char}

theorem basicText_quote (h : rest.take 2 ≠ ['"', '"']) :
    basicText true (fuel + 1) ('"' :: rest) =
      (basicText true fuel rest).map fun (t, r) => ('"' :: t, r) := by
  rw [basicText]
  simp [h]

/-- Up to two quotation marks and those that close the text. -/
theorem basicText_close {count : Nat} (hcount : count ≤ 2) (hrest : rest.head? ≠ some '"') :
    basicText true (fuel + 1) (List.replicate (count + 3) '"' ++ rest) =
      some (List.replicate count '"', rest) := by
  rw [← closing_append hcount hrest]
  rfl

/-- A text of several lines between quotation marks. -/
theorem basicText_encodeBasic_many {s : List Char} (hfuel : s.length < fuel) (quotes : Nat)
    (hrest : rest.head? ≠ some '"') :
    basicText true fuel (encodeBasic true quotes s ++ '"' :: '"' :: '"' :: rest) =
      some (s, rest) := by
  induction s generalizing fuel quotes with
  | nil =>
      obtain ⟨fuel, rfl⟩ := Nat.exists_eq_add_one.mpr hfuel
      exact basicText_close (Nat.zero_le 2) hrest
  | cons c s ih =>
      obtain ⟨fuel, rfl⟩ := Nat.exists_eq_add_one_of_ne_zero (Nat.ne_zero_of_lt hfuel)
      have hread := fun quotes => ih (Nat.lt_of_succ_lt_succ hfuel) quotes
      by_cases h : c ≠ '"' ∨ true = false ∨ 2 ≤ quotes
      · obtain ⟨piece, hwritten, hstands⟩ := encodeBasic_cons h s
        rw [hwritten, List.append_assoc, hstands.read, hread]
        rfl
      · obtain ⟨rfl, hfew⟩ : c = '"' ∧ quotes < 2 := by simpa using h
        have hmark : ∀ s, encodeBasic true quotes ('"' :: s) =
            '"' :: encodeBasic true (quotes + 1) s := fun s => by simp [encodeBasic, hfew]
        -- the mark is one of the closing run, or one of at most two with something else behind them
        rcases s with _ | ⟨d, s⟩
        · rw [hmark]
          exact basicText_close (Nat.le_succ 1) hrest
        · rw [hmark]
          by_cases hd : d ≠ '"' ∨ true = false ∨ 2 ≤ quotes + 1
          · obtain ⟨piece, hwritten, -, first, more, rfl, hfirst, -, -⟩ := encodeBasic_cons hd s
            rw [List.cons_append, basicText_quote (by simp [hwritten, hfirst]), hread]
            rfl
          · obtain ⟨rfl, rfl⟩ : d = '"' ∧ quotes = 0 := by simpa using hd
            have hsecond : ∀ s, encodeBasic true 1 ('"' :: s) = '"' :: encodeBasic true 2 s :=
              fun s => by simp [encodeBasic]
            rcases s with _ | ⟨e, s⟩
            · rw [hsecond]
              exact basicText_close le_rfl hrest
            · have hpiece : e ≠ '"' ∨ true = false ∨ 2 ≤ 2 := .inr (.inr le_rfl)
              obtain ⟨piece, hwritten, -, first, more, rfl, hfirst, -, -⟩ := encodeBasic_cons hpiece s
              rw [List.cons_append, basicText_quote (by simp [hsecond, hwritten, hfirst]), hread]
              rfl

end

/-! ## Texts between apostrophes -/

section

variable {many : Bool} {fuel : Nat} {rest : List Char}

theorem literalText_plain {c : Char} (hplain : isPlain c = true) (hmark : c ≠ '\'') :
    literalText many (fuel + 1) (c :: rest) =
      (literalText many fuel rest).map fun (t, r) => (c :: t, r) := by
  rw [literalText]
  · rw [if_pos hplain]
  all_goals simp_all

theorem literalText_newline :
    literalText true (fuel + 1) ('\n' :: rest) =
      (literalText true fuel rest).map fun (t, r) => ('\n' :: t, r) := by
  rw [literalText]
  · simp [isPlain, lineEnd?]
  all_goals simp

theorem literalText_mark (h : rest.take 2 ≠ ['\'', '\'']) :
    literalText true (fuel + 1) ('\'' :: rest) =
      (literalText true fuel rest).map fun (t, r) => ('\'' :: t, r) := by
  rw [literalText]
  simp [h]

/-- Up to two apostrophes and those that close the text. -/
theorem literalText_close {count : Nat} (hcount : count ≤ 2) (hrest : rest.head? ≠ some '\'') :
    literalText true (fuel + 1) (List.replicate (count + 3) '\'' ++ rest) =
      some (List.replicate count '\'', rest) := by
  rw [← closing_append hcount hrest]
  rfl

/-- A text on one line between apostrophes. -/
theorem literalText_append {s : List Char} (hfuel : s.length < fuel)
    (hplain : ∀ c ∈ s, isPlain c = true) (hmark : '\'' ∉ s) :
    literalText false fuel (s ++ '\'' :: rest) = some (s, rest) := by
  induction s generalizing fuel with
  | nil =>
      obtain ⟨fuel, rfl⟩ := Nat.exists_eq_add_one.mpr hfuel
      rfl
  | cons c s ih =>
      obtain ⟨fuel, rfl⟩ := Nat.exists_eq_add_one_of_ne_zero (Nat.ne_zero_of_lt hfuel)
      obtain ⟨hc, hplain⟩ := List.forall_mem_cons.mp hplain
      obtain ⟨hne, hmark⟩ := not_or.mp (List.mem_cons.not.mp hmark)
      rw [List.cons_append, literalText_plain hc (Ne.symm hne),
        ih (Nat.lt_of_succ_lt_succ hfuel) hplain hmark]
      rfl

theorem le_longestRun (x : Char) (here : Nat) (s : List Char) : here ≤ longestRun x here s := by
  induction s generalizing here with
  | nil => exact le_rfl
  | cons c s ih =>
      rw [longestRun]
      split_ifs
      · exact (Nat.le_succ here).trans (ih (here + 1))
      · exact le_max_left ..

theorem longestRun_mono {x : Char} {here later : Nat} (h : here ≤ later) (s : List Char) :
    longestRun x here s ≤ longestRun x later s := by
  induction s generalizing here later with
  | nil => exact h
  | cons c s ih =>
      rw [longestRun, longestRun]
      split_ifs
      · exact ih (Nat.succ_le_succ h)
      · omega

theorem longestRun_tail_le (x : Char) (c : Char) (s : List Char) :
    longestRun x 0 s ≤ longestRun x 0 (c :: s) := by
  rw [longestRun]
  split_ifs
  · exact longestRun_mono (Nat.zero_le 1) s
  · exact le_max_right ..

/-- Where no run of a character is longer than two, there are no three in a row. -/
theorem take_ne_of_longestRun_le {x : Char} {s : List Char} (h : longestRun x 0 (x :: s) ≤ 2) :
    s.take 2 ≠ [x, x] := by
  intro htake
  obtain ⟨more, rfl⟩ : ∃ more, s = x :: x :: more := ⟨s.drop 2, by
    conv_lhs => rw [← List.take_append_drop 2 s, htake]
    rfl⟩
  have hrun : longestRun x 3 more ≤ 2 := by simpa [longestRun] using h
  exact absurd (le_longestRun x 3 more) (by omega)

theorem longestRun_eq_zero_iff {x : Char} {s : List Char} : longestRun x 0 s = 0 ↔ x ∉ s := by
  induction s with
  | nil => simp [longestRun]
  | cons c s ih =>
      rw [longestRun, List.mem_cons, not_or]
      split_ifs with hx
      · have hpos := le_longestRun x 1 s
        simp only [hx]
        grind
      · rw [← ih]
        grind

/-- A text of several lines between apostrophes. -/
theorem literalText_append_many {s : List Char} (hfuel : s.length < fuel)
    (hcode : ∀ c ∈ s, needsCode c = false) (hmark : longestRun '\'' 0 s ≤ 2)
    (hrest : rest.head? ≠ some '\'') :
    literalText true fuel (s ++ '\'' :: '\'' :: '\'' :: rest) = some (s, rest) := by
  induction s generalizing fuel with
  | nil =>
      obtain ⟨fuel, rfl⟩ := Nat.exists_eq_add_one.mpr hfuel
      exact literalText_close (Nat.zero_le 2) hrest
  | cons c s ih =>
      obtain ⟨fuel, rfl⟩ := Nat.exists_eq_add_one_of_ne_zero (Nat.ne_zero_of_lt hfuel)
      obtain ⟨hc, hcode⟩ := List.forall_mem_cons.mp hcode
      have hread := ih (Nat.lt_of_succ_lt_succ hfuel) hcode
        ((longestRun_tail_le _ c s).trans hmark)
      by_cases hquote : c = '\''
      · subst hquote
        have htake := take_ne_of_longestRun_le hmark
        rcases s with _ | ⟨d, _ | ⟨e, s⟩⟩
        · exact literalText_close (Nat.le_succ 1) hrest
        · by_cases hd : d = '\''
          · subst hd
            exact literalText_close le_rfl hrest
          · rw [List.cons_append, literalText_mark (by simp [hd]), hread]
            rfl
        · rw [List.cons_append, literalText_mark (by simpa using htake), hread]
          rfl
      · rw [List.cons_append]
        by_cases hline : c = '\n'
        · subst hline
          rw [literalText_newline, hread]
          rfl
        · rw [literalText_plain (isPlain_of_not_needsCode hc hline) hquote, hread]
          rfl

end

/-! ## All forms -/

section

variable {s rest : List Char}

theorem text?_quote (h : s.take 2 ≠ ['"', '"']) :
    text? ('"' :: s) = basicText false (s.length + 1) s := by
  unfold text?
  split <;> simp_all

theorem text?_apostrophe (h : s.take 2 ≠ ['\'', '\'']) :
    text? ('\'' :: s) = literalText false (s.length + 1) s := by
  unfold text?
  split <;> simp_all

theorem dropFirstLineEnd_of_none (h : lineEnd? s = none) : dropFirstLineEnd s = s := by
  rw [dropFirstLineEnd, h]
  rfl

/-- A text between quotation marks that has no line break does not begin with one. -/
theorem lineEnd?_encodeBasic (hline : '\n' ∉ s) :
    lineEnd? (encodeBasic true 0 s ++ '"' :: rest) = none := by
  rcases s with _ | ⟨c, s⟩
  · rfl
  · by_cases h : c ≠ '"' ∨ true = false ∨ 2 ≤ 0
    · obtain ⟨piece, hwritten, -, first, more, rfl, -, hreturn, hfeed⟩ := encodeBasic_cons h s
      have hfirst : first ≠ '\n' := fun heq => hline (hfeed heq ▸ List.mem_cons_self)
      rw [hwritten, List.append_assoc, List.cons_append]
      unfold lineEnd?
      split <;> simp_all
    · obtain rfl : c = '"' := by simpa using h
      rfl

theorem lineEnd?_append_of_not_needsCode (hcode : ∀ c ∈ s, needsCode c = false)
    (hline : '\n' ∉ s) : lineEnd? (s ++ '\'' :: rest) = none := by
  rcases s with _ | ⟨c, s⟩
  · rfl
  · have hfeed : c ≠ '\n' := fun heq => hline (heq ▸ List.mem_cons_self)
    have hreturn : c ≠ '\r' := by
      rintro rfl
      exact absurd (hcode _ List.mem_cons_self) (by decide)
    rw [List.cons_append]
    unfold lineEnd?
    split <;> simp_all

/-- A text on one line between quotation marks. -/
theorem text?_basic (hrest : rest.head? ≠ some '"') :
    text? (between ['"'] false (encodeBasic false 0 s) ++ rest) = some (s, rest) := by
  have hopened : (encodeBasic false 0 s ++ '"' :: rest).take 2 ≠ ['"', '"'] := by
    rcases s with _ | ⟨c, s⟩
    · cases rest <;> simp_all [encodeBasic]
    · have h : c ≠ '"' ∨ false = false ∨ 2 ≤ 0 := .inr (.inl rfl)
      obtain ⟨piece, hwritten, -, first, more, rfl, hfirst, -, -⟩ := encodeBasic_cons h s
      simp [hwritten, hfirst]
  have hform : between ['"'] false (encodeBasic false 0 s) ++ rest =
      '"' :: (encodeBasic false 0 s ++ '"' :: rest) := by simp [between]
  have hlength := length_le_encodeBasic false 0 s
  rw [hform, text?_quote hopened]
  exact basicText_encodeBasic (by simp only [List.length_append]; omega) 0 rest

/-- A text between three quotation marks, on lines of its own if it has several lines. -/
theorem text?_basic_many (many : Bool) (hmany : '\n' ∈ s → many = true)
    (hrest : rest.head? ≠ some '"') :
    text? (between ['"', '"', '"'] many (encodeBasic true 0 s) ++ rest) = some (s, rest) := by
  have hlength := length_le_encodeBasic true 0 s
  cases many with
  | true =>
      have hform : between ['"', '"', '"'] true (encodeBasic true 0 s) ++ rest =
          '"' :: '"' :: '"' :: '\n' :: (encodeBasic true 0 s ++ '"' :: '"' :: '"' :: rest) := by
        simp [between]
      rw [hform]
      exact basicText_encodeBasic_many
        (by simp only [List.length_append, List.length_cons]; omega) 0 hrest
  | false =>
      have hform : between ['"', '"', '"'] false (encodeBasic true 0 s) ++ rest =
          '"' :: '"' :: '"' :: (encodeBasic true 0 s ++ '"' :: '"' :: '"' :: rest) := by
        simp [between]
      have hline : '\n' ∉ s := fun hmem => Bool.false_ne_true (hmany hmem)
      rw [hform, text?, dropFirstLineEnd_of_none (lineEnd?_encodeBasic hline)]
      exact basicText_encodeBasic_many (by simp only [List.length_append]; omega) 0 hrest

/-- A text on one line between apostrophes. -/
theorem text?_literal (hcode : ∀ c ∈ s, needsCode c = false) (hline : '\n' ∉ s)
    (hmark : '\'' ∉ s) (hrest : rest.head? ≠ some '\'') :
    text? (between ['\''] false s ++ rest) = some (s, rest) := by
  have hplain : ∀ c ∈ s, isPlain c = true := fun c hc =>
    isPlain_of_not_needsCode (hcode c hc) fun heq => hline (heq ▸ hc)
  have hopened : (s ++ '\'' :: rest).take 2 ≠ ['\'', '\''] := by
    rcases s with _ | ⟨c, s⟩
    · cases rest <;> simp_all
    · have hfirst : c ≠ '\'' := fun heq => hmark (heq ▸ List.mem_cons_self)
      simp [hfirst]
  have hform : between ['\''] false s ++ rest = '\'' :: (s ++ '\'' :: rest) := by simp [between]
  rw [hform, text?_apostrophe hopened]
  exact literalText_append (by simp only [List.length_append]; omega) hplain hmark

/-- A text between three apostrophes, on lines of its own if it has several lines. -/
theorem text?_literal_many (many : Bool) (hmany : '\n' ∈ s → many = true)
    (hcode : ∀ c ∈ s, needsCode c = false) (hmark : longestRun '\'' 0 s ≤ 2)
    (hrest : rest.head? ≠ some '\'') :
    text? (between ['\'', '\'', '\''] many s ++ rest) = some (s, rest) := by
  cases many with
  | true =>
      have hform : between ['\'', '\'', '\''] true s ++ rest =
          '\'' :: '\'' :: '\'' :: '\n' :: (s ++ '\'' :: '\'' :: '\'' :: rest) := by
        simp [between]
      rw [hform]
      exact literalText_append_many (by simp only [List.length_append, List.length_cons]; omega)
        hcode hmark hrest
  | false =>
      have hform : between ['\'', '\'', '\''] false s ++ rest =
          '\'' :: '\'' :: '\'' :: (s ++ '\'' :: '\'' :: '\'' :: rest) := by
        simp [between]
      have hline : '\n' ∉ s := fun hmem => Bool.false_ne_true (hmany hmem)
      rw [hform, text?, dropFirstLineEnd_of_none (lineEnd?_append_of_not_needsCode hcode hline)]
      exact literalText_append_many (by simp only [List.length_append]; omega) hcode hmark hrest

/-- Every text is read back from its written form, whatever follows it but for further marks. -/
theorem text?_encodeText (s : List Char) {rest : List Char} (hquote : rest.head? ≠ some '"')
    (hmark : rest.head? ≠ some '\'') : text? (encodeText s ++ rest) = some (s, rest) := by
  have hcodes : s.any needsCode = false → ∀ c ∈ s, needsCode c = false := by simp
  have hnewline : '\n' ∈ s ↔ s.any (· == '\n') = true := by simp
  rw [encodeText]
  simp only [Bool.and_eq_true, Bool.not_eq_true', decide_eq_true_eq]
  split_ifs with hbasic hliteral hmany hliteralMany hlines
  · exact text?_basic hquote
  · obtain ⟨⟨hcode, hrun⟩, hline⟩ := hliteral
    exact text?_literal (hcodes hcode) (hnewline.not.mpr (Bool.eq_false_iff.mp hline))
      (longestRun_eq_zero_iff.mp hrun) hmark
  · exact text?_basic_many _ hnewline.mp hquote
  · exact text?_literal_many _ hnewline.mp (hcodes hliteralMany.1) hliteralMany.2 hmark
  · exact text?_basic_many true (fun _ => rfl) hquote
  · exact text?_basic hquote

end

end ScanRoster.Toml
