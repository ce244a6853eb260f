/-
The scanning of lines. A line is a word, a colon, a space and a word; words begin with a letter or digit,
maybe after a minus sign, and go on with letters, digits and a few marks. Such a line is read in three
steps: at the word a key may begin, the colon shows that one did, and the second word ends where the line
ends, since the next one is not further in. So between the lines a scan is in one of two states, before the
first key of the block or after it.
-/
import Striker.Yaml.Scan
import Striker.Yaml.Text

namespace Striker.Yaml

/-! ## Words -/

/-- A character of words. -/
def IsWordChar (c : Char) : Prop := c.isAlphanum = true ∨ c ∈ ['_', '.', '-', '+']

/-- Whether a word may begin here. -/
def startsWord : List Char → Bool
  | '-' :: c :: _ => c.isAlphanum
  | c :: _ => c.isAlphanum
  | [] => false

/-- A word that is read as it is written. -/
structure IsWord (cs : List Char) : Prop where
  chars : ∀ c ∈ cs, IsWordChar c
  start : startsWord cs = true

instance (c : Char) : Decidable (IsWordChar c) := inferInstanceAs (Decidable (_ ∨ _))

instance (cs : List Char) : Decidable (IsWord cs) :=
  decidable_of_iff (cs.all (IsWordChar ·) = true ∧ startsWord cs = true)
    ⟨fun h => ⟨fun c hc => of_decide_eq_true (List.all_eq_true.1 h.1 c hc), h.2⟩,
      fun h => ⟨List.all_eq_true.2 fun c hc => decide_eq_true (h.chars c hc), h.start⟩⟩

namespace IsWordChar

variable {c : Char}

theorem toNat_bounds (h : IsWordChar c) : 43 ≤ c.toNat ∧ c.toNat ≤ 122 ∧ c.toNat ≠ 58 := by
  rcases h with h | h
  · change (decide (65 ≤ c.val ∧ c.val ≤ 90) || (97 ≤ c.val && c.val ≤ 122) ||
      (48 ≤ c.val && c.val ≤ 57)) = true at h
    simp only [Bool.or_eq_true, Bool.and_eq_true, decide_eq_true_eq, UInt32.le_iff_toNat_le] at h
    change ((65 ≤ c.toNat ∧ c.toNat ≤ 90) ∨ 97 ≤ c.toNat ∧ c.toNat ≤ 122) ∨
      48 ≤ c.toNat ∧ c.toNat ≤ 57 at h
    omega
  · simp only [List.mem_cons, List.not_mem_nil, or_false] at h
    rcases h with rfl | rfl | rfl | rfl <;> decide

theorem ne {d : Char} (h : IsWordChar c) (hd : d.toNat < 43 ∨ 122 < d.toNat ∨ d.toNat = 58) : c ≠ d := by
  rintro rfl
  have hbounds := h.toNat_bounds
  omega

theorem isBreak (h : IsWordChar c) : isBreak c = false := by
  simp [Yaml.isBreak, h.ne]

theorem isBlank (h : IsWordChar c) : isBlank c = false := by
  simp [Yaml.isBlank, h.ne]

theorem isPermitted (h : IsWordChar c) : isPermitted c = true := by
  obtain ⟨hlow, hhigh, -⟩ := h.toNat_bounds
  have hspace : 0x20 ≤ c.toNat := by omega
  have htilde : c.toNat ≤ 0x7e := by omega
  simp [Yaml.isPermitted, hspace, htilde]

theorem utf8Size (h : IsWordChar c) : c.utf8Size = 1 := by
  have hbounds := h.toNat_bounds
  refine Char.utf8Size_eq_one_iff.2 (UInt32.le_iff_toNat_le.2 ?_)
  change c.toNat ≤ 127
  omega

end IsWordChar

/-- The first character of a word stands for nothing else. -/
theorem IsWord.cases {cs : List Char} (h : IsWord cs) : ∃ c rest, cs = c :: rest ∧
    (c.isAlphanum = true ∨ c = '-' ∧ ∃ d more, rest = d :: more ∧ d.isAlphanum = true) := by
  have hstart := h.start
  unfold startsWord at hstart
  split at hstart
  · next d more => exact ⟨'-', d :: more, rfl, .inr ⟨rfl, d, more, rfl, hstart⟩⟩
  · next c rest _ => exact ⟨c, rest, rfl, .inl hstart⟩
  · cases hstart

/-! ## Places -/

/-- The place some characters further on in the line. -/
def Position.along (p : Position) (n : Nat) : Position := ⟨p.index + n, p.line, p.column + n⟩

theorem Position.along_along (p : Position) (n m : Nat) : (p.along n).along m = p.along (n + m) := by
  simp [along, Nat.add_assoc]

theorem Position.after_eq_along (p : Position) {c : Char} (hbreak : isBreak c = false)
    (hsize : c.utf8Size = 1) : p.after c = p.along 1 := by
  simp [after, along, hbreak, hsize]

theorem IsWordChar.after {c : Char} (h : IsWordChar c) (p : Position) : p.after c = p.along 1 :=
  p.after_eq_along h.isBreak h.utf8Size

/-! ## Plain scalars -/

theorem readPlain_cons {c : Char} (hc : IsWordChar c) (indent : Int) (before : List Char) (p : Position)
    (rest : List Char) : readPlain indent false before none p (c :: rest) =
      readPlain indent false (c :: before) none (p.along 1) rest := by
  have hcolon : c ≠ ':' := hc.ne (by decide)
  rw [readPlain]
  · simp [hc.isBreak, hc.isBlank, isStrayColon, plainWordEnds, hcolon, hc.after, Gap.empty, Gap.text]
  · -- a carriage return before a line feed has a case of its own
    intro more hreturn
    exact absurd hreturn (hc.ne (by decide))

theorem readPlain_word {w : List Char} (hw : ∀ c ∈ w, IsWordChar c) (indent : Int)
    (before : List Char) (p : Position) (rest : List Char) :
    readPlain indent false before none p (w ++ rest) =
      readPlain indent false (w.reverse ++ before) none (p.along w.length) rest := by
  induction w generalizing before p with
  | nil => rfl
  | cons c w ih =>
    obtain ⟨hc, hw⟩ := List.forall_mem_cons.1 hw
    rw [List.cons_append, readPlain_cons hc, ih hw, Position.along_along, List.reverse_cons,
      List.append_assoc, List.length_cons, Nat.add_comm 1]
    rfl

/-- A word ends before a colon and a space. -/
theorem readPlain_colon {w : List Char} (hw : ∀ c ∈ w, IsWordChar c) (indent : Int) (p : Position)
    (rest : List Char) : readPlain indent false [] none p (w ++ ':' :: ' ' :: rest) =
      some ⟨w, false, ⟨p.along w.length, ':' :: ' ' :: rest⟩⟩ := by
  rw [readPlain_word hw, List.append_nil, readPlain]
  · simp [isBreak, isBlank, isStrayColon, plainWordEnds, wordEnds, Gap.empty, Gap.isBroken]
  · intro more hreturn
    exact absurd hreturn (by decide)

/-- What stands at the start of the next line, if it is not indented: nothing, or a word. -/
def StartsLine (rest : List Char) : Prop := rest = [] ∨ ∃ c cs, rest = c :: cs ∧ IsWordChar c

theorem readPlain_line {w : List Char} (hw : ∀ c ∈ w, IsWordChar c) {indent : Int} (p : Position)
    {rest : List Char} (hrest : rest = [] ∨ 0 < indent ∧ StartsLine rest) :
    readPlain indent false [] none p (w ++ '\n' :: rest) =
      some ⟨w, true, ⟨(p.along w.length).newLine 1, rest⟩⟩ := by
  have hbreak : isBreak '\n' = true := rfl
  have hafter : (p.along w.length).after '\n' = (p.along w.length).newLine 1 := rfl
  rw [readPlain_word hw, List.append_nil, readPlain]
  · rw [if_pos hbreak, hafter]
    rcases hrest with rfl | ⟨hindent, rfl | ⟨c, cs, rfl, hc⟩⟩
    · simp [readPlain, Gap.empty, Gap.lineEnd, Gap.isBroken, breakText]
    · simp [readPlain, Gap.empty, Gap.lineEnd, Gap.isBroken, breakText]
    · -- the next line is not indented far enough
      have hends : plainEnds indent false ((p.along w.length).newLine 1) (c :: cs) = true := by
        simp [plainEnds, Position.newLine, hindent]
      rw [readPlain]
      · simp [hc.isBreak, hc.isBlank, hends, Gap.empty, Gap.lineEnd, Gap.isBroken, breakText]
      · intro more hreturn
        exact absurd hreturn (hc.ne (by decide))
  · intro more hreturn
    exact absurd hreturn (by decide)

namespace Scan

/-! ## Steps -/

/-- A scan at the start of a line, before the first key of the block or inside it. -/
def atLine (inside : Bool) (p : Position) (rest : List Char) (tokens : List Token) : Scan where
  input := ⟨p, rest⟩
  tokens := tokens
  size := tokens.length
  candidate := none
  outer := []
  allowed := true
  indent := if inside then 0 else -1
  indents := if inside then [-1] else []
  ended := false

/-- The scan after the first word of a line, where a key may have begun. -/
def afterKey (inside : Bool) (p : Position) (key rest : List Char) (tokens : List Token) : Scan :=
  { atLine inside (p.along key.length) (':' :: ' ' :: rest) (.scalar (String.ofList key) .plain :: tokens) with
    candidate := some ⟨tokens.length, p, inside⟩
    allowed := false }

/-- The tokens of a key and the sign after it, last one first; the first key begins the block. -/
def keyTokens (inside : Bool) (key : List Char) : List Token :=
  [.value, .scalar (String.ofList key) .plain, .key] ++ if inside then [] else [.blockMapping]

/-- The scan after the colon of a line. -/
def afterColon (inside : Bool) (p : Position) (key rest : List Char) (tokens : List Token) : Scan :=
  { atLine true (p.along (key.length + 1)) (' ' :: rest) (keyTokens inside key ++ tokens) with
    allowed := false }

theorem skipSpace_of_isWord {w : List Char} (hw : IsWord w) (allowed : Bool) (p : Position)
    (rest : List Char) : skipSpace false false allowed p (w ++ rest) = (allowed, ⟨p, w ++ rest⟩) := by
  obtain ⟨c, more, rfl, -⟩ := hw.cases
  have hc : IsWordChar c := hw.chars c List.mem_cons_self
  have hspace : c ≠ ' ' := hc.ne (by decide)
  have htab : c ≠ '\t' := hc.ne (by decide)
  have hmark : c ≠ '\ufeff' := hc.ne (by decide)
  have hhash : c ≠ '#' := hc.ne (by decide)
  rw [List.cons_append, skipSpace]
  · simp [hc.isBreak, hspace, htab, hmark, hhash]
  · intro next hreturn
    exact absurd hreturn (hc.ne (by decide))

theorem skipSpace_space (allowed : Bool) (p : Position) (rest : List Char) :
    skipSpace false false allowed p (' ' :: rest) = skipSpace false false allowed (p.along 1) rest := by
  have hbreak : isBreak ' ' = false := rfl
  have hafter : p.after ' ' = p.along 1 := rfl
  rw [skipSpace]
  · simp [hbreak, hafter]
  · intro next hreturn
    exact absurd hreturn (by decide)

theorem settle_of_none {s : Scan} (h : s.candidate = none) (houter : s.outer = []) :
    s.settle = some s := by
  obtain ⟨input, tokens, size, candidate, outer, allowed, indent, indents, ended⟩ := s
  subst h houter
  rfl

theorem settle_of_fresh {s : Scan} {c : Candidate} (h : s.candidate = some c) (houter : s.outer = [])
    (hfresh : s.isStale c = false) : s.settle = some s := by
  unfold settle
  obtain ⟨input, tokens, size, candidate, outer, allowed, indent, indents, ended⟩ := s
  subst h houter
  simp [hfresh]

/-- A possible key that is too far back is given up unless it is required. -/
theorem settle_of_stale {s : Scan} {c : Candidate} (h : s.candidate = some c) (houter : s.outer = [])
    (hstale : s.isStale c = true) (hrequired : c.required = false) :
    s.settle = some { s with candidate := none } := by
  unfold settle
  obtain ⟨input, tokens, size, candidate, outer, allowed, indent, indents, ended⟩ := s
  subst h houter
  simp [hstale, hrequired, Option.filter]

theorem token_of_isWord {s : Scan} (houter : s.outer = []) {w rest : List Char} (hw : IsWord w)
    (hrest : s.input.rest = w ++ rest) : s.token = s.plain := by
  have hflow : s.isFlow = false := by simp [isFlow, houter]
  obtain ⟨c, more, rfl, hc | ⟨rfl, d, more, rfl, hd⟩⟩ := hw.cases
  · -- neither a sign of the language nor a marker of a document begins with a letter or a digit
    have hne : ∀ d : Char, d.isAlphanum = false → c ≠ d := by
      rintro d hd rfl
      rw [hc] at hd
      cases hd
    have hmarker : isMarker s.input.start (c :: (more ++ rest)) = false := by
      unfold isMarker
      split
      · next heq => exact absurd (List.cons.inj heq).1 (hne '-' rfl)
      · next heq => exact absurd (List.cons.inj heq).1 (hne '.' rfl)
      · rfl
    have hbegins : plainBegins false c (more ++ rest) = true := by
      simp [plainBegins, isBlank, isSign, hne]
    unfold token
    rw [hrest, hflow]
    simp [hne, hmarker, hbegins]
  · -- a minus sign begins an item only before space, and a marker only before another one
    have hword : IsWordChar d := .inl hd
    have hends : wordEnds (d :: (more ++ rest)) = false := by
      simp [wordEnds, hword.isBlank, hword.isBreak]
    have hmarker : isMarker s.input.start ('-' :: d :: (more ++ rest)) = false := by
      unfold isMarker
      split
      · next heq =>
        obtain ⟨-, heq⟩ := List.cons.inj heq
        obtain ⟨rfl, -⟩ := List.cons.inj heq
        cases hd
      · next heq => cases heq
      · rfl
    have hbegins : plainBegins false '-' (d :: (more ++ rest)) = true := by
      simp [plainBegins, hword.isBlank]
    unfold token
    rw [hrest, hflow]
    simp [hends, hmarker, hbegins]

/-- A block goes on at a column that is not further out. -/
theorem leave_of_le {s : Scan} {column : Int} (h : s.indent ≤ column) : s.leave column = s := by
  have hblock : blockAt column s.indent s.indents = (0, s.indent, s.indents) := by
    cases s.indents with
    | nil => rfl
    | cons around indents => rw [blockAt, if_neg (Int.not_lt.2 h)]
  unfold leave
  split
  · rfl
  · rw [hblock]
    rfl

/-- A step over space that leaves no block reads the token behind the space. -/
theorem step_of_skipSpace {s s' : Scan} (houter : s.outer = []) {i : Input}
    (hskip : skipSpace false false s.allowed s.input.start s.input.rest = (s.allowed, i))
    (hsettle : { s with input := i }.settle = some s') (hindent : s'.indent ≤ s'.input.start.column) :
    s.step = s'.token := by
  have hflow : s.isFlow = false := by simp [isFlow, houter]
  unfold step
  rw [hflow, hskip]
  show ({ s with input := i }.settle >>= fun s => (s.leave s.input.start.column).token) = _
  rw [hsettle]
  show (s'.leave s'.input.start.column).token = _
  rw [leave_of_le hindent]

theorem step_of_isWord {s : Scan} (houter : s.outer = []) (hcandidate : s.candidate = none) {i : Input}
    (hskip : skipSpace false false s.allowed s.input.start s.input.rest = (s.allowed, i))
    {w rest : List Char} (hw : IsWord w) (hrest : i.rest = w ++ rest)
    (hindent : s.indent ≤ i.start.column) : s.step = { s with input := i }.plain := by
  have hsettle : { s with input := i }.settle = some { s with input := i } :=
    settle_of_none hcandidate houter
  rw [step_of_skipSpace houter hskip hsettle hindent]
  exact token_of_isWord (s := { s with input := i }) houter hw hrest

variable {inside : Bool} {p : Position} {key w rest : List Char} {tokens : List Token}

theorem step_key (hkey : IsWord key) (hp : p.column = 0) :
    (atLine inside p (key ++ ':' :: ' ' :: rest) tokens).step =
      some (afterKey inside p key rest tokens) := by
  have hindent : (atLine inside p (key ++ ':' :: ' ' :: rest) tokens).indent ≤ p.column := by
    cases inside <;> simp [atLine, hp]
  -- inside the block, at its column, a key is required
  have hrequired : decide ((if inside then 0 else -1 : Int) = p.column) = inside := by
    cases inside <;> simp [hp]
  have hskip := skipSpace_of_isWord hkey true p (':' :: ' ' :: rest)
  rw [step_of_isWord (i := ⟨p, key ++ ':' :: ' ' :: rest⟩) rfl rfl hskip hkey rfl hindent]
  simp [plain, mark, drop, atLine, isFlow, readPlain_colon hkey.chars, put, afterKey, hrequired]

theorem settle_afterKey (hlength : key.length ≤ 1024) :
    (afterKey inside p key rest tokens).settle = some (afterKey inside p key rest tokens) := by
  refine settle_of_fresh (c := ⟨tokens.length, p, inside⟩) rfl rfl ?_
  simp [isStale, afterKey, atLine, Position.along, hlength]

/-- A colon makes the word before it a key, and the first key begins the block. -/
theorem colon_afterKey (hp : p.column = 0) : (afterKey inside p key rest tokens).colon =
    some (afterColon inside p key rest tokens) := by
  have halong : (p.along key.length).after ':' = p.along (key.length + 1) := rfl
  -- the sign of the key, and that of the block, go before the word that is already a token
  have hone : tokens.length + 1 - tokens.length = 1 := by omega
  have htwo : tokens.length + 1 + 1 - tokens.length = 2 := by omega
  cases inside <;>
    simp [colon, afterKey, afterColon, atLine, insert, enter, isFlow, hp, take, put, keyTokens,
      Input.advance, halong, hone, htwo]

theorem step_colon (hp : p.column = 0) (hlength : key.length ≤ 1024) :
    (afterKey inside p key rest tokens).step = some (afterColon inside p key rest tokens) := by
  have hskip : skipSpace false false false (p.along key.length) (':' :: ' ' :: rest) =
      (false, ⟨p.along key.length, ':' :: ' ' :: rest⟩) := by
    rw [skipSpace]
    · simp [isBreak]
    · intro next hreturn
      exact absurd hreturn (by decide)
  have hindent : (afterKey inside p key rest tokens).indent ≤
      (afterKey inside p key rest tokens).input.start.column := by
    cases inside <;> simp [afterKey, atLine, Position.along] <;> omega
  have htoken : (afterKey inside p key rest tokens).token = (afterKey inside p key rest tokens).colon := by
    simp [token, afterKey, atLine, isFlow, isMarker, wordEnds, isBlank]
  rw [step_of_skipSpace (s := afterKey inside p key rest tokens) rfl hskip (settle_afterKey hlength)
    hindent, htoken, colon_afterKey hp]

theorem step_value (hw : IsWord w) (hrest : StartsLine rest) :
    (afterColon inside p key (w ++ '\n' :: rest) tokens).step =
      some (atLine true ((p.along (key.length + 2 + w.length)).newLine 1) rest
        (.scalar (String.ofList w) .plain :: (keyTokens inside key ++ tokens))) := by
  have hskip : skipSpace false false false (p.along (key.length + 1)) (' ' :: (w ++ '\n' :: rest)) =
      (false, ⟨p.along (key.length + 2), w ++ '\n' :: rest⟩) := by
    rw [skipSpace_space, skipSpace_of_isWord hw, Position.along_along]
  have hread : readPlain 1 false [] none (p.along (key.length + 2)) (w ++ '\n' :: rest) =
      some ⟨w, true, ⟨(p.along (key.length + 2 + w.length)).newLine 1, rest⟩⟩ := by
    rw [readPlain_line hw.chars _ (.inr ⟨Int.one_pos, hrest⟩), Position.along_along]
  rw [step_of_isWord (i := ⟨p.along (key.length + 2), w ++ '\n' :: rest⟩) rfl rfl hskip hw rfl
    (Int.natCast_nonneg _)]
  simp [plain, mark, afterColon, atLine, isFlow, hread, put]

/-! ## Runs -/

theorem run_step {s s' next : Scan} (hsettle : s.settle = some s') (hended : s'.ended = false)
    (hstep : s'.step = some next) (fuel : Nat) (before : Scan) :
    run false (fuel + 1) before s = run false fuel s' next := by
  rw [run, hsettle]
  simp only [hended, hstep, Bool.false_and, Bool.false_eq_true, if_false]

variable (inside tokens) in
/-- A line is read in three steps. -/
theorem run_line (hkey : IsWord key) (hlength : key.length ≤ 1024) (hw : IsWord w)
    (hrest : StartsLine rest) (hp : p.column = 0) (fuel : Nat) (before : Scan) :
    ∃ before' p', p'.column = 0 ∧
      run false (fuel + 3) before
        (atLine inside p (key ++ ':' :: ' ' :: (w ++ '\n' :: rest)) tokens) =
      run false fuel before' (atLine true p' rest
        (.scalar (String.ofList w) .plain :: (keyTokens inside key ++ tokens))) := by
  -- the key, the colon after it, and the word up to the next line
  refine ⟨afterColon inside p key (w ++ '\n' :: rest) tokens,
    (p.along (key.length + 2 + w.length)).newLine 1, rfl, ?_⟩
  rw [run_step (settle_of_none rfl rfl) rfl (step_key hkey hp),
    run_step (settle_afterKey hlength) rfl (step_colon hp hlength),
    run_step (settle_of_none rfl rfl) rfl (step_value hw hrest)]

/-- The scan after the end of the stream, which ends the block. -/
def atEnd (inside : Bool) (p : Position) (tokens : List Token) : Scan :=
  { atLine false p [] (.streamEnd :: ((if inside then [.blockEnd] else []) ++ tokens)) with
    allowed := false
    ended := true }

theorem step_end (hp : p.column = 0) :
    (atLine inside p [] tokens).step = some (atEnd inside p tokens) := by
  have hindent : (atLine inside p [] tokens).indent ≤ (atLine inside p [] tokens).input.start.column := by
    cases inside <;> simp [atLine]
  rw [step_of_skipSpace (s := atLine inside p [] tokens) rfl rfl (settle_of_none rfl rfl) hindent]
  cases inside <;>
    simp [token, finish, leaveAll, leave, blockAt, drop, put, atLine, atEnd, isFlow, hp]

theorem run_end {s : Scan} (hsettle : s.settle = some (atLine inside p [] tokens)) (hp : p.column = 0)
    (fuel : Nat) (before : Scan) : run false (fuel + 2) before s =
      (tokens.reverse ++ (if inside then [.blockEnd] else []) ++ [.streamEnd], true) := by
  rw [run_step hsettle rfl (step_end hp), run, settle_of_none (s := atEnd inside p tokens) rfl rfl]
  cases inside <;> simp [atEnd, atLine]

end Scan

/-! ## Lines -/

/-- A line with a key and a word. -/
def line (e : String × String) : List Char := e.1.toList ++ ':' :: ' ' :: (e.2.toList ++ ['\n'])

/-- The tokens of a line inside a block. -/
def lineTokens (e : String × String) : List Token :=
  [.key, .scalar e.1 .plain, .value, .scalar e.2 .plain]

/-- A key and a word that make up a line. -/
structure IsEntry (e : String × String) : Prop where
  key : IsWord e.1.toList
  length : e.1.toList.length ≤ 1024
  word : IsWord e.2.toList

theorem line_append (e : String × String) (rest : List Char) :
    line e ++ rest = e.1.toList ++ ':' :: ' ' :: (e.2.toList ++ '\n' :: rest) := by
  simp [line]

variable {e : String × String} {entries : List (String × String)}

theorem startsLine_lines (h : ∀ e ∈ entries, IsEntry e) : StartsLine (entries.flatMap line) := by
  cases entries with
  | nil => exact .inl rfl
  | cons e entries =>
    have hkey := (h e List.mem_cons_self).key
    obtain ⟨c, more, hc, -⟩ := hkey.cases
    have hchar : IsWordChar c := hkey.chars c (by simp [hc])
    rw [List.flatMap_cons, line_append, hc]
    exact .inr ⟨c, _, rfl, hchar⟩

theorem length_lines (entries : List (String × String)) :
    3 * entries.length ≤ (entries.flatMap line).length := by
  induction entries with
  | nil => exact Nat.le_refl 0
  | cons e entries ih =>
    simp only [List.flatMap_cons, List.length_append, List.length_cons, line]
    omega

namespace Scan

theorem run_cons (he : IsEntry e) (h : ∀ e ∈ entries, IsEntry e) (inside : Bool) {p : Position}
    (hp : p.column = 0) (tokens : List Token) (fuel : Nat) (before : Scan) :
    ∃ before' p', p'.column = 0 ∧
      run false (fuel + 3) before (atLine inside p ((e :: entries).flatMap line) tokens) =
      run false fuel before' (atLine true p' (entries.flatMap line)
        (.scalar e.2 .plain :: (keyTokens inside e.1.toList ++ tokens))) := by
  obtain ⟨before', p', hp', hrun⟩ :=
    run_line inside tokens he.key he.length he.word (startsLine_lines h) hp fuel before
  rw [String.ofList_toList] at hrun
  exact ⟨before', p', hp', by rw [List.flatMap_cons, line_append, hrun]⟩

/-- Lines inside a block are read to its end. -/
theorem run_lines (h : ∀ e ∈ entries, IsEntry e) {p : Position} (hp : p.column = 0)
    (tokens : List Token) (fuel : Nat) (before : Scan) :
    run false (3 * entries.length + (fuel + 2)) before (atLine true p (entries.flatMap line) tokens) =
      (tokens.reverse ++ (entries.flatMap lineTokens ++ [.blockEnd, .streamEnd]), true) := by
  induction entries generalizing p tokens before with
  | nil =>
    rw [List.length_nil, Nat.mul_zero, Nat.zero_add, List.flatMap_nil, run_end (settle_of_none rfl rfl) hp]
    simp
  | cons e entries ih =>
    obtain ⟨he, h⟩ := List.forall_mem_cons.1 h
    have hfuel : 3 * (e :: entries).length + (fuel + 2) = 3 * entries.length + (fuel + 2) + 3 := by
      rw [List.length_cons]
      omega
    obtain ⟨before', p', hp', hrun⟩ :=
      run_cons he h true hp tokens (3 * entries.length + (fuel + 2)) before
    rw [hfuel, hrun, ih h hp']
    simp [keyTokens, lineTokens]

end Scan

/-! ## Texts -/

/-- The start of a text. -/
def origin : Position := ⟨0, 0, 0⟩

theorem legible_eq {cs : List Char} (h : ∀ c ∈ cs, isPermitted c = true) (before block : List Char)
    (room : Nat) : legible before block room cs = (block ++ before).reverse ++ cs := by
  induction cs generalizing before block room with
  | nil => simp [legible]
  | cons c cs ih =>
    obtain ⟨hc, hcs⟩ := List.forall_mem_cons.1 h
    unfold legible
    rw [hc, if_neg (by decide), ih hcs, ih hcs]
    split <;> simp

theorem isPermitted_line (he : IsEntry e) : ∀ c ∈ line e, isPermitted c = true := by
  simp only [line, List.forall_mem_append, List.forall_mem_cons]
  exact ⟨fun c hc => (he.key.chars c hc).isPermitted, rfl, rfl,
    fun c hc => (he.word.chars c hc).isPermitted, rfl, List.forall_mem_nil _⟩

theorem tokens_eq {cs : List Char} (h : ∀ c ∈ cs, isPermitted c = true) :
    tokens (String.ofList cs) = Scan.run false (cs.length + 2) (Scan.atLine false origin cs [])
      (Scan.atLine false origin cs []) := by
  have hlegible : legible [] [] blockSize cs = cs := legible_eq h [] [] blockSize
  have hstart : Scan.ofText cs = Scan.atLine false origin cs [] := rfl
  unfold tokens
  dsimp only
  rw [String.toList_ofList, hlegible, hstart, decide_eq_false (Nat.lt_irrefl _)]

/-- The tokens of lines: one block with a key and a value for each. -/
theorem tokens_lines (he : IsEntry e) (h : ∀ e ∈ entries, IsEntry e) :
    tokens (String.ofList ((e :: entries).flatMap line)) =
      (.blockMapping :: ((e :: entries).flatMap lineTokens ++ [.blockEnd, .streamEnd]), true) := by
  have hall : ∀ e' ∈ e :: entries, IsEntry e' := List.forall_mem_cons.2 ⟨he, h⟩
  have hpermitted : ∀ c ∈ (e :: entries).flatMap line, isPermitted c = true := by
    intro c hc
    obtain ⟨e', he', hc⟩ := List.mem_flatMap.1 hc
    exact isPermitted_line (hall e' he') c hc
  obtain ⟨fuel, hfuel⟩ := Nat.exists_eq_add_of_le (length_lines (e :: entries))
  have hsteps : ((e :: entries).flatMap line).length + 2 = 3 * entries.length + (fuel + 2) + 3 := by
    rw [hfuel, List.length_cons]
    omega
  obtain ⟨before, p, hp, hrun⟩ := Scan.run_cons he h false (p := origin) rfl []
    (3 * entries.length + (fuel + 2)) (Scan.atLine false origin ((e :: entries).flatMap line) [])
  rw [tokens_eq hpermitted, hsteps, hrun, Scan.run_lines h hp]
  simp [Scan.keyTokens, lineTokens]

namespace Scan

/-- The scan after a word alone in its line, where a key may have begun. -/
def afterWord (w : List Char) : Scan :=
  { atLine false ((origin.along w.length).newLine 1) [] [.scalar (String.ofList w) .plain] with
    candidate := some ⟨0, origin, false⟩ }

theorem step_word {w : List Char} (hw : IsWord w) :
    (atLine false origin (w ++ ['\n']) []).step = some (afterWord w) := by
  have hskip := skipSpace_of_isWord hw true origin ['\n']
  have hread : readPlain 0 false [] none origin (w ++ ['\n']) = some ⟨w, true, _, []⟩ :=
    readPlain_line hw.chars origin (.inl rfl)
  have hindent : (-1 : Int) ≤ 0 := by decide
  have hcolumn : origin.column = 0 := rfl
  rw [step_of_isWord (i := ⟨origin, w ++ ['\n']⟩) rfl rfl hskip hw rfl hindent]
  simp [plain, mark, drop, atLine, isFlow, hread, put, afterWord, hcolumn]

/-- In the next line the key that may have begun is too far back. -/
theorem settle_afterWord (w : List Char) : (afterWord w).settle =
    some (atLine false ((origin.along w.length).newLine 1) [] [.scalar (String.ofList w) .plain]) :=
  settle_of_stale rfl rfl (by simp [isStale, afterWord, atLine, origin, Position.newLine]) rfl

end Scan

theorem tokens_word {w : String} (hw : IsWord w.toList) :
    tokens (String.ofList (w.toList ++ ['\n'])) = ([.scalar w .plain, .streamEnd], true) := by
  have hpermitted : ∀ c ∈ w.toList ++ ['\n'], isPermitted c = true :=
    List.forall_mem_append.2 ⟨fun c hc => (hw.chars c hc).isPermitted, List.forall_mem_singleton.2 rfl⟩
  have hfuel : (w.toList ++ ['\n']).length + 2 = w.toList.length + 2 + 1 := by
    rw [List.length_append, List.length_singleton]
  rw [tokens_eq hpermitted, hfuel, Scan.run_step (Scan.settle_of_none rfl rfl) rfl (Scan.step_word hw),
    Scan.run_end (Scan.settle_afterWord w.toList) rfl, String.ofList_toList]
  rfl

end Striker.Yaml
