import Mathlib.Data.List.Nodup
import TaggedRpc.Json.Parser
import TaggedRpc.Json.Printer
import TaggedRpc.Json.Record
import TaggedRpc.Proofs.Text.Reading

/-!
# Reading back JSON

What is written of a value, over several lines, is cut into the tokens of the value
(`Json.tokens`), and these are read as the value. This goes for *plain* values, in which strings are
whole and numbers have no exponent (`Json.parse?_pretty`).

Two statements on a value carry this, each for what may stand around it. Its text is cut into its
tokens and those of what follows, provided a number would be over there (`Json.Scans`). And its
tokens lead the reader from where a value is due to where this one has ended, whatever is open
around it (`Json.Reads`).

A record that is written as an object with its fields is read as these fields
(`Json.record?_ofMembers`).
-/

namespace TaggedRpc.Json

/-! ## Strings -/

/-- A character is escaped by a letter, or by its number, or it stands for itself. -/
theorem escapeChar_cases (c : Char) :
    (∃ e, Token.escaped? e = some c ∧ (escapeChar c).toList = ['\\', e]) ∨
    (c.toNat < 0x20 ∧ (escapeChar c).toList =
      ['\\', 'u', '0', '0', Bytes.hexDigit (c.toNat / 16), Bytes.hexDigit (c.toNat % 16)]) ∨
    (c ≠ '"' ∧ c ≠ '\\' ∧ 0x20 ≤ c.toNat ∧ (escapeChar c).toList = [c]) := by
  rw [escapeChar]
  split_ifs with h₁ h₂ h₃ h₄ h₅ h₆ h₇ h₈
  · exact .inl ⟨'"', by rw [h₁]; rfl, rfl⟩
  · exact .inl ⟨'\\', by rw [h₂]; rfl, rfl⟩
  · exact .inl ⟨'n', by rw [h₃]; rfl, rfl⟩
  · exact .inl ⟨'r', by rw [h₄]; rfl, rfl⟩
  · exact .inl ⟨'t', by rw [h₅]; rfl, rfl⟩
  · exact .inl ⟨'b', by rw [h₆]; rfl, rfl⟩
  · exact .inl ⟨'f', by rw [h₇]; rfl, rfl⟩
  · have hbyte : (UInt8.ofNat c.toNat).toNat = c.toNat := by
      rw [UInt8.toNat_ofNat']
      omega
    exact .inr (.inl ⟨h₈, by simp [Bytes.hex, hbyte]⟩)
  · exact .inr (.inr ⟨h₁, h₂, Nat.not_lt.1 h₈, by simp [Char.toString]⟩)

namespace Token

/-- A text is cut into these tokens, if there are turns enough. -/
def Lexes (cs : List Char) (ts : List Token) : Prop :=
  ∀ turns, cs.length < turns → scan turns cs = some ts

theorem lexes_nil : Lexes [] [] := by
  intro turns hturns
  obtain ⟨turns, rfl⟩ := Nat.exists_eq_add_of_lt hturns
  rfl

theorem Lexes.blank {c : Char} {cs : List Char} {ts : List Token} (hc : isBlank c = true)
    (h : Lexes cs ts) : Lexes (c :: cs) ts := by
  intro turns hturns
  rw [← h turns (Nat.lt_of_succ_lt hturns)]
  cases turns with
  | zero => rfl
  | succ turns => rw [scan, scan, List.dropWhile_cons_of_pos hc]

theorem Lexes.token {c : Char} {w rest : List Char} {t : Token} {ts : List Token}
    (hc : isBlank c = false) (hfirst : first? (c :: w ++ rest) = some (t, rest))
    (h : Lexes rest ts) : Lexes (c :: w ++ rest) (t :: ts) := by
  intro turns hturns
  rw [List.cons_append] at *
  cases turns with
  | zero => exact absurd hturns (Nat.not_lt_zero _)
  | succ turns =>
    have hrest : rest.length < turns := by
      rw [List.length_cons, List.length_append] at hturns
      omega
    rw [scan, List.dropWhile_cons_of_neg (by simp [hc])]
    simp [hfirst, h turns hrest]

theorem pieces_escaped {e c : Char} (h : escaped? e = some c) (cs : List Char)
    (acc : List Piece) : pieces ('\\' :: e :: cs) acc = pieces cs (.char c :: acc) := by
  have he : e ≠ 'u' := by
    rintro rfl
    exact nomatch (h : none = some c)
  rw [pieces, h]
  · rfl
  · exact fun _ _ _ _ _ hu => absurd hu he

theorem pieces_plain {c : Char} (hquote : c ≠ '"') (hback : c ≠ '\\') (hc : 0x20 ≤ c.toNat)
    (cs : List Char) (acc : List Piece) : pieces (c :: cs) acc = pieces cs (.char c :: acc) := by
  have hplain : ¬(c.toNat < 0x20 ∨ c = '\\') := not_or.2 ⟨Nat.not_lt.2 hc, hback⟩
  rw [pieces, if_neg hplain]
  · exact hquote
  · exact fun _ _ _ _ _ h => absurd h hback
  · exact fun _ _ h => absurd h hback

theorem unit?_control : ∀ n < 0x20,
    unit? ['0', '0', Bytes.hexDigit (n / 16), Bytes.hexDigit (n % 16)] = some n := by
  decide

theorem text?_unit {u : Nat} (hu : u < 0xD800) (ps : List Piece) :
    text? (.unit u :: ps) = (text? ps).map (Char.ofNat u :: ·) := by
  have hhigh : ¬(0xD800 ≤ u ∧ u < 0xDC00) := by omega
  have hlow : ¬(0xDC00 ≤ u ∧ u < 0xE000) := by omega
  have hpair : ¬(0xD800 ≤ u ∧ u < 0xE000) := by omega
  rcases ps with - | ⟨c | l, ps⟩
  · simp [text?, hpair]
  · simp [text?, hpair]
  · rw [text?, if_neg hhigh, if_neg hlow]

/-- What a character of a string is written as reads as a piece that stands for it. -/
theorem exists_piece (c : Char) : ∃ p : Piece,
    (∀ cs acc, pieces ((escapeChar c).toList ++ cs) acc = pieces cs (p :: acc)) ∧
      ∀ ps, text? (p :: ps) = (text? ps).map (c :: ·) := by
  rcases escapeChar_cases c with ⟨e, he, hlist⟩ | ⟨hc, hlist⟩ | ⟨hquote, hback, hc, hlist⟩
  · exact ⟨.char c, fun cs acc => by rw [hlist]; exact pieces_escaped he cs acc, fun ps => rfl⟩
  · refine ⟨.unit c.toNat, fun cs acc => ?_, fun ps => ?_⟩
    · rw [hlist]
      simp [pieces, unit?_control c.toNat hc]
    · rw [text?_unit (by omega), Char.ofNat_toNat]
  · exact ⟨.char c, fun cs acc => by rw [hlist]; exact pieces_plain hquote hback hc cs acc,
      fun ps => rfl⟩

/-- So a string is read up to its closing quote. -/
theorem exists_pieces (cs rest : List Char) (acc : List Piece) : ∃ ps,
    pieces ((cs.map escapeChar).flatMap String.toList ++ '"' :: rest) acc =
        some (acc.reverse ++ ps, rest) ∧ text? ps = some cs := by
  induction cs generalizing acc with
  | nil => exact ⟨[], by simp [pieces], rfl⟩
  | cons c cs ih =>
    obtain ⟨p, hpieces, htext⟩ := exists_piece c
    obtain ⟨ps, hps, hcs⟩ := ih (p :: acc)
    refine ⟨p :: ps, ?_, ?_⟩
    · rw [List.map_cons, List.flatMap_cons, List.append_assoc, hpieces, hps]
      simp
    · rw [htext, hcs]
      rfl

theorem toList_quote (s : String) : (quote s).toList =
    '"' :: ((s.toList.map escapeChar).flatMap String.toList ++ ['"']) := by
  simp [quote]

theorem first?_quote (s : String) (rest : List Char) :
    first? ((quote s).toList ++ rest) = some (.string (some s), rest) := by
  obtain ⟨ps, hps, htext⟩ := exists_pieces s.toList rest []
  rw [toList_quote]
  simp [first?, hps, htext]

theorem Lexes.quote {rest : List Char} {ts : List Token} (h : Lexes rest ts) (s : String) :
    Lexes ((quote s).toList ++ rest) (.string (some s) :: ts) := by
  have hfirst := first?_quote s rest
  rw [toList_quote] at hfirst ⊢
  exact .token (by decide) hfirst h

/-! ## Numbers -/

/-- A number is over: neither a digit, nor a point, nor an exponent follows. -/
def Ends (cs : List Char) : Prop :=
  ∀ c ∈ cs.head?, c.isDigit = false ∧ c ≠ '.' ∧ c ≠ 'e' ∧ c ≠ 'E'

/-- The digits of a number do not start with a zero, unless it is zero. -/
theorem head?_toDigits {n : Nat} (hn : n ≠ 0) : (Nat.toDigits 10 n).head? ≠ some '0' := by
  induction n using Nat.strongRecOn with
  | _ n ih =>
    by_cases hlt : n < 10
    · rw [Nat.toDigits_of_lt_base hlt]
      have hdigit : ∀ d < 10, d ≠ 0 → [d.digitChar].head? ≠ some '0' := by decide
      exact hdigit n hlt hn
    · obtain ⟨c, cs, hcs, -⟩ := Text.exists_toDigits_eq_cons (n / 10)
      have hhead := ih (n / 10) (Nat.div_lt_self (Nat.pos_of_ne_zero hn) (by decide)) (by omega)
      rw [hcs] at hhead
      rw [Nat.toDigits_of_base_le (by decide) (Nat.not_lt.1 hlt), hcs]
      exact hhead

theorem takeWhile_toDigits_append (n : Nat) {rest : List Char} (h : Ends rest) :
    (Nat.toDigits 10 n ++ rest).takeWhile Char.isDigit = Nat.toDigits 10 n ∧
      (Nat.toDigits 10 n ++ rest).dropWhile Char.isDigit = rest := by
  have hdigits : ∀ c ∈ Nat.toDigits 10 n, c.isDigit = true :=
    fun c hc => Nat.isDigit_of_mem_toDigits (by decide) (by decide) hc
  rw [List.takeWhile_append_of_pos hdigits, List.dropWhile_append_of_pos hdigits]
  cases rest with
  | nil => exact ⟨List.append_nil _, rfl⟩
  | cons c rest =>
    have hc : ¬c.isDigit = true := by simp [(h c rfl).1]
    rw [List.takeWhile_cons_of_neg hc, List.dropWhile_cons_of_neg hc]
    exact ⟨List.append_nil _, rfl⟩

theorem exponent?_eq_none {rest : List Char} (h : Ends rest) :
    exponent? rest = some (none, rest) := by
  cases rest with
  | nil => rfl
  | cons c rest =>
    obtain ⟨-, -, he, hE⟩ := h c rfl
    simp [exponent?, he, hE]

theorem number?_toDigits (negative : Bool) (n : Nat) {rest : List Char} (h : Ends rest) :
    number? negative (Nat.toDigits 10 n ++ rest) =
      some ({ negative, digits := n, scale := 0, whole := true }, rest) := by
  obtain ⟨htake, hdrop⟩ := takeWhile_toDigits_append n h
  have hzero : ¬((Nat.toDigits 10 n).head? = some '0' ∧ (Nat.toDigits 10 n).length ≠ 1) := by
    rintro ⟨hhead, hlength⟩
    by_cases hn : n = 0
    · subst hn
      exact hlength rfl
    · exact head?_toDigits hn hhead
  have hdigits : ofDigits (Nat.toDigits 10 n) = n := Nat.ofDigitChars_ten_toDigits
  have hnil : (Nat.toDigits 10 n).isEmpty = false := by simp [Nat.toDigits_ne_nil]
  simp only [number?, htake, hdrop, hnil, hzero, if_false, Bool.false_eq_true]
  split
  · exact absurd rfl (h '.' rfl).2.1
  · simp [exponent?_eq_none h, hdigits]

theorem toList_render (n : Number) (h : n.scale = 0) : n.render.toList =
    (if n.negative then ['-'] else []) ++ Nat.toDigits 10 n.digits := by
  cases hn : n.negative <;> simp [Number.render, h, hn]

theorem first?_of_isDigit {c : Char} (hc : c.isDigit = true) {cs rest : List Char} {n : Number}
    (h : number? false (c :: cs) = some (n, rest)) :
    first? (c :: cs) = some (.number n, rest) := by
  rw [first?.eq_def]
  split
  case h_12 => rw [h]; rfl
  all_goals
    rename_i heq
    obtain ⟨rfl, -⟩ := List.cons.inj heq
    exact absurd hc (by decide)

theorem first?_render {n : Number} (hscale : n.scale = 0) (hwhole : n.whole = true)
    {rest : List Char} (h : Ends rest) :
    first? (n.render.toList ++ rest) = some (.number n, rest) := by
  have hnumber := number?_toDigits n.negative n.digits h
  have hn : { negative := n.negative, digits := n.digits, scale := 0, whole := true } = n := by
    rw [← hscale, ← hwhole]
  rw [toList_render n hscale]
  cases hneg : n.negative with
  | true =>
    rw [hneg] at hnumber hn
    simp [first?, hnumber, hn]
  | false =>
    rw [hneg] at hnumber hn
    obtain ⟨c, cs, hcs, hc⟩ := Text.exists_toDigits_eq_cons n.digits
    rw [hn, hcs] at hnumber
    rw [hcs]
    exact first?_of_isDigit hc hnumber

theorem isBlank_of_isDigit {c : Char} (h : c.isDigit = true) : isBlank c = false := by
  have hne {b : Char} (hb : b.isDigit = false) : c ≠ b := by
    rintro rfl
    exact Bool.false_ne_true (hb.symm.trans h)
  have hspace : c ≠ ' ' := hne rfl
  have htab : c ≠ '\t' := hne rfl
  have hline : c ≠ '\n' := hne rfl
  have hreturn : c ≠ '\r' := hne rfl
  simp [isBlank, hspace, htab, hline, hreturn]

theorem Lexes.render {n : Number} (hscale : n.scale = 0) (hwhole : n.whole = true)
    {rest : List Char} {ts : List Token} (hends : Ends rest) (h : Lexes rest ts) :
    Lexes (n.render.toList ++ rest) (.number n :: ts) := by
  have hfirst := first?_render hscale hwhole hends
  rw [toList_render n hscale] at hfirst ⊢
  obtain ⟨c, cs, hcs, hc⟩ := Text.exists_toDigits_eq_cons n.digits
  rw [hcs] at hfirst ⊢
  cases hneg : n.negative <;> rw [hneg] at hfirst
  · exact .token (isBlank_of_isDigit hc) hfirst h
  · exact .token (by decide) hfirst h

end Token

/-! ## Values -/

mutual

/-- The tokens that a value is written as. -/
def tokens : Json → List Token
  | null => [.null]
  | bool b => [.bool b]
  | number n => [.number n]
  | string s => [.string (some s)]
  | brokenString => [.string (some "")]
  | array [] => [.leftBracket, .rightBracket]
  | array (v :: vs) => .leftBracket :: (tokens v ++ (elementTokens vs ++ [.rightBracket]))
  | object [] => [.leftBrace, .rightBrace]
  | object ((k, v) :: ms) =>
    .leftBrace :: .string (some (k.getD "")) :: .colon ::
      (tokens v ++ (memberTokens ms ++ [.rightBrace]))

/-- The elements of an array after its first. -/
def elementTokens : List Json → List Token
  | [] => []
  | v :: vs => .comma :: (tokens v ++ elementTokens vs)

/-- The members of an object after its first. -/
def memberTokens : List (Option String × Json) → List Token
  | [] => []
  | (k, v) :: ms => .comma :: .string (some (k.getD "")) :: .colon :: (tokens v ++ memberTokens ms)

end

/-- Values that are written as what they are: strings and keys are whole, and numbers have no
    exponent. -/
inductive Plain : Json → Prop
  | null : Plain null
  | bool (b : Bool) : Plain (bool b)
  | number {n : Number} : n.scale = 0 → n.whole = true → Plain (number n)
  | string (s : String) : Plain (string s)
  | array {vs : List Json} : (∀ v ∈ vs, Plain v) → Plain (array vs)
  | object {ms : List (Option String × Json)} : (∀ m ∈ ms, m.1.isSome = true) →
      (∀ m ∈ ms, Plain m.2) → Plain (object ms)

theorem plain_int (v : Int) : Plain (int v) := .number rfl rfl

theorem plain_nat (n : Nat) : Plain (nat n) := plain_int n

open Token

theorem Token.Lexes.newLine {cs : List Char} {ts : List Token} (h : Lexes cs ts) (level : Nat) :
    Lexes ((newLine level).toList ++ cs) ts := by
  have hblanks (n : Nat) : Lexes (List.replicate n ' ' ++ cs) ts := by
    induction n with
    | zero => exact h
    | succ n ih => exact ih.blank rfl
  have hlist : (Json.newLine level).toList ++ cs =
      '\n' :: (List.replicate (2 * level) ' ' ++ cs) := by
    simp [Json.newLine]
  rw [hlist]
  exact (hblanks _).blank rfl

theorem Token.ends_newLine (level : Nat) (cs : List Char) :
    Ends ((newLine level).toList ++ cs) := by
  simp [Json.newLine, Ends]

/-- What follows a value does not get into its tokens. -/
def Scans (v : Json) : Prop :=
  ∀ level rest ts, Ends rest → Lexes rest ts →
    Lexes ((prettyAt level v).toList ++ rest) (tokens v ++ ts)

theorem ends_prettyElements (level : Nat) (vs : List Json) {rest : List Char} (h : Ends rest) :
    Ends ((prettyElements level vs).toList ++ rest) := by
  cases vs with
  | nil => simpa [prettyElements] using h
  | cons v vs => simp [prettyElements, Ends]

theorem ends_prettyMembers (level : Nat) (ms : List (Option String × Json)) {rest : List Char}
    (h : Ends rest) : Ends ((prettyMembers level ms).toList ++ rest) := by
  cases ms with
  | nil => simpa [prettyMembers] using h
  | cons m ms => simp [prettyMembers, Ends]

theorem lexes_prettyElements {vs : List Json} (hvs : ∀ v ∈ vs, Scans v) (level : Nat)
    {rest : List Char} {ts : List Token} (hends : Ends rest) (h : Lexes rest ts) :
    Lexes ((prettyElements level vs).toList ++ rest) (elementTokens vs ++ ts) := by
  induction vs with
  | nil => simpa [prettyElements, elementTokens] using h
  | cons v vs ih =>
    obtain ⟨hv, hvs⟩ := List.forall_mem_cons.1 hvs
    have hvalue := hv level _ _ (ends_prettyElements level vs hends) (ih hvs)
    have hcomma := Lexes.token (c := ',') (w := []) (by decide) rfl (hvalue.newLine level)
    simpa [prettyElements, elementTokens] using hcomma

/-- A member, when what follows its value is cut. -/
theorem lexes_member {v : Json} (hv : Scans v) (key : Option String) (level : Nat)
    {rest : List Char} {ts : List Token} (hends : Ends rest) (h : Lexes rest ts) :
    Lexes ((quoteKey key).toList ++ (':' :: ' ' :: ((prettyAt level v).toList ++ rest)))
      (.string (some (key.getD "")) :: .colon :: (tokens v ++ ts)) := by
  have hvalue := (hv level rest ts hends h).blank (c := ' ') rfl
  exact (Lexes.token (c := ':') (w := []) (by decide) rfl hvalue).quote (key.getD "")

theorem lexes_prettyMembers {ms : List (Option String × Json)} (hms : ∀ m ∈ ms, Scans m.2)
    (level : Nat) {rest : List Char} {ts : List Token} (hends : Ends rest) (h : Lexes rest ts) :
    Lexes ((prettyMembers level ms).toList ++ rest) (memberTokens ms ++ ts) := by
  induction ms with
  | nil => simpa [prettyMembers, memberTokens] using h
  | cons m ms ih =>
    obtain ⟨key, v⟩ := m
    obtain ⟨hv, hms⟩ := List.forall_mem_cons.1 hms
    have hmember := lexes_member hv key level (ends_prettyMembers level ms hends) (ih hms)
    have hcomma := Lexes.token (c := ',') (w := []) (by decide) rfl (hmember.newLine level)
    simpa [prettyMembers, memberTokens] using hcomma

theorem Plain.scans {v : Json} (h : Plain v) : Scans v := by
  induction h with
  | null =>
    intro level rest ts _ h
    simpa [prettyAt, compact, tokens] using
      Lexes.token (c := 'n') (w := ['u', 'l', 'l']) (by decide) rfl h
  | bool b =>
    intro level rest ts _ h
    cases b with
    | false =>
      simpa [prettyAt, compact, tokens] using
        Lexes.token (c := 'f') (w := ['a', 'l', 's', 'e']) (by decide) rfl h
    | true =>
      simpa [prettyAt, compact, tokens] using
        Lexes.token (c := 't') (w := ['r', 'u', 'e']) (by decide) rfl h
  | number hscale hwhole =>
    intro level rest ts hends h
    simpa [prettyAt, compact, tokens] using h.render hscale hwhole hends
  | string s =>
    intro level rest ts _ h
    simpa [prettyAt, compact, tokens] using h.quote s
  | @array vs _ ih =>
    intro level rest ts _ h
    have hclose := Lexes.token (c := ']') (w := []) (by decide) rfl h
    cases vs with
    | nil =>
      have hopen := Lexes.token (c := '[') (w := []) (by decide) rfl hclose
      simpa [prettyAt, tokens] using hopen
    | cons v vs =>
      obtain ⟨hv, hvs⟩ := List.forall_mem_cons.1 ih
      have hends := ends_newLine level ([']'] ++ rest)
      have hothers := lexes_prettyElements hvs (level + 1) hends (hclose.newLine level)
      have hvalue := hv (level + 1) _ _ (ends_prettyElements _ _ hends) hothers
      have hopen := Lexes.token (c := '[') (w := []) (by decide) rfl (hvalue.newLine (level + 1))
      simpa [prettyAt, tokens] using hopen
  | @object ms _ _ ih =>
    intro level rest ts _ h
    have hclose := Lexes.token (c := '\x7d') (w := []) (by decide) rfl h
    cases ms with
    | nil =>
      have hopen := Lexes.token (c := '\x7b') (w := []) (by decide) rfl hclose
      simpa [prettyAt, tokens] using hopen
    | cons m ms =>
      obtain ⟨key, v⟩ := m
      obtain ⟨hv, hms⟩ := List.forall_mem_cons.1 ih
      have hends := ends_newLine level (['\x7d'] ++ rest)
      have hothers := lexes_prettyMembers hms (level + 1) hends (hclose.newLine level)
      have hmember := lexes_member hv key (level + 1) (ends_prettyMembers _ _ hends) hothers
      have hopen := Lexes.token (c := '\x7b') (w := []) (by decide) rfl
        (hmember.newLine (level + 1))
      simpa [prettyAt, tokens] using hopen

/-! ## Reading -/

/-- The tokens of a value read as the value, whatever is open around it and follows it. -/
def Reads (v : Json) : Prop :=
  ∀ open_ ts, parseValue open_ (tokens v ++ ts) = parseAfter open_ v ts

/-- A value does not start with the end of an array. -/
theorem exists_tokens_eq_cons (v : Json) : ∃ t ts, tokens v = t :: ts ∧ t ≠ .rightBracket := by
  rcases v with - | b | n | s | - | (- | ⟨v, vs⟩) | (- | ⟨⟨k, v⟩, ms⟩) <;>
    exact ⟨_, _, rfl, nofun⟩

theorem parseAfter_elementTokens {vs : List Json} (hvs : ∀ v ∈ vs, Reads v) (open_ : List Frame)
    (acc : List Json) (v : Json) (ts : List Token) :
    parseAfter (.array acc :: open_) v (elementTokens vs ++ .rightBracket :: ts) =
      parseAfter open_ (array (acc.reverse ++ v :: vs)) ts := by
  induction vs generalizing acc v with
  | nil =>
    rw [elementTokens, List.nil_append, parseAfter, List.reverse_cons]
  | cons w vs ih =>
    obtain ⟨hw, hvs⟩ := List.forall_mem_cons.1 hvs
    rw [elementTokens, List.cons_append, parseAfter, List.append_assoc, hw, ih hvs]
    simp

theorem parseAfter_memberTokens {ms : List (Option String × Json)}
    (hkeys : ∀ m ∈ ms, m.1.isSome = true) (hms : ∀ m ∈ ms, Reads m.2) (open_ : List Frame)
    (acc : List (Option String × Json)) (key : Option String) (v : Json) (ts : List Token) :
    parseAfter (.object acc key :: open_) v (memberTokens ms ++ .rightBrace :: ts) =
      parseAfter open_ (object (acc.reverse ++ (key, v) :: ms)) ts := by
  induction ms generalizing acc key v with
  | nil =>
    rw [memberTokens, List.nil_append, parseAfter, List.reverse_cons]
  | cons m ms ih =>
    obtain ⟨k, w⟩ := m
    obtain ⟨hk, hkeys'⟩ := List.forall_mem_cons.1 hkeys
    obtain ⟨hw, hms'⟩ := List.forall_mem_cons.1 hms
    obtain ⟨k, rfl⟩ := Option.isSome_iff_exists.1 hk
    rw [memberTokens, List.cons_append, List.cons_append, List.cons_append, parseAfter,
      List.append_assoc, hw, ih hkeys' hms']
    simp

theorem Plain.reads {v : Json} (h : Plain v) : Reads v := by
  induction h with
  | null => intro open_ ts; rw [tokens, List.cons_append, parseValue, List.nil_append]
  | bool b => intro open_ ts; rw [tokens, List.cons_append, parseValue, List.nil_append]
  | number => intro open_ ts; rw [tokens, List.cons_append, parseValue, List.nil_append]
  | string s => intro open_ ts; rw [tokens, List.cons_append, parseValue, List.nil_append]
  | @array vs _ ih =>
    intro open_ ts
    cases vs with
    | nil => rw [tokens, List.cons_append, List.cons_append, parseValue, List.nil_append]
    | cons v vs =>
      obtain ⟨hv, hvs⟩ := List.forall_mem_cons.1 ih
      have hopen (ts : List Token) : parseValue open_ (.leftBracket :: (tokens v ++ ts)) =
          parseValue (.array [] :: open_) (tokens v ++ ts) := by
        obtain ⟨t, ts', htokens, ht⟩ := exists_tokens_eq_cons v
        rw [parseValue]
        intro ts h
        rw [htokens] at h
        exact ht (List.cons.inj h).1
      calc parseValue open_ (tokens (Json.array (v :: vs)) ++ ts)
          = parseValue open_
              (.leftBracket :: (tokens v ++ (elementTokens vs ++ .rightBracket :: ts))) := by
            simp [tokens]
        _ = parseAfter (.array [] :: open_) v (elementTokens vs ++ .rightBracket :: ts) := by
            rw [hopen, hv]
        _ = parseAfter open_ (Json.array (v :: vs)) ts := parseAfter_elementTokens hvs open_ [] v ts
  | @object ms hkeys _ ih =>
    intro open_ ts
    cases ms with
    | nil => rw [tokens, List.cons_append, List.cons_append, parseValue, List.nil_append]
    | cons m ms =>
      obtain ⟨k, v⟩ := m
      obtain ⟨hk, hkeys'⟩ := List.forall_mem_cons.1 hkeys
      have hv : Reads v := ih (k, v) List.mem_cons_self
      have hms := (List.forall_mem_cons.1 ih).2
      obtain ⟨k, rfl⟩ := Option.isSome_iff_exists.1 hk
      calc parseValue open_ (tokens (Json.object ((some k, v) :: ms)) ++ ts)
          = parseValue open_ (.leftBrace :: .string (some k) :: .colon ::
              (tokens v ++ (memberTokens ms ++ .rightBrace :: ts))) := by
            simp [tokens]
        _ = parseAfter (.object [] (some k) :: open_) v
              (memberTokens ms ++ .rightBrace :: ts) := by
            rw [parseValue, hv]
        _ = parseAfter open_ (Json.object ((some k, v) :: ms)) ts :=
            parseAfter_memberTokens hkeys' hms open_ [] (some k) v ts

/-- A plain value that is written over several lines reads back. -/
theorem parse?_pretty {v : Json} (h : Plain v) : parse? (pretty v) = some v := by
  have hlexes : Lexes (pretty v).toList (tokens v) := by
    simpa [pretty] using h.scans 0 [] [] nofun lexes_nil
  have hreads := h.reads [] []
  rw [List.append_nil] at hreads
  rw [parse?, ofText, hlexes _ (Nat.lt_succ_self _)]
  rw [Option.bind_eq_bind, Option.bind_some, hreads, parseAfter]

/-! ## Records -/

theorem valuesOf_of_mem {members : List (String × Json)} (hnodup : (members.map Prod.fst).Nodup)
    {key : String} {v : Json} (h : (key, v) ∈ members) :
    valuesOf (members.map fun m => (some m.1, m.2)) key = [v] := by
  induction members with
  | nil => exact absurd h List.not_mem_nil
  | cons m members ih =>
    rw [List.map_cons, List.nodup_cons] at hnodup
    rcases List.mem_cons.1 h with rfl | h
    · have hnone : ∀ m ∈ members, m.1 ≠ key := fun m hm hkey =>
        hnodup.1 (List.mem_map.2 ⟨m, hm, hkey⟩)
      simpa [valuesOf, List.filter_map, Function.comp_def] using hnone
    · have hne : m.1 ≠ key := fun hkey => hnodup.1 (List.mem_map.2 ⟨(key, v), h, hkey.symm⟩)
      simpa [valuesOf, hne] using ih hnodup.2 h

/-- A record whose fields have different names has them. -/
theorem record?_ofMembers {members : List (String × Json)}
    (hnodup : (members.map Prod.fst).Nodup) :
    (ofMembers members).record? (members.map Prod.fst) = some (members.map fun m => some m.2) := by
  have hvalues : (members.map Prod.fst).map (valuesOf (members.map fun m => (some m.1, m.2))) =
      members.map fun m => [m.2] := by
    rw [List.map_map]
    exact List.map_congr_left fun m hm => valuesOf_of_mem hnodup hm
  simp only [ofMembers, record?, hvalues]
  simp

theorem list?_map {α : Type} {read : Json → Option α} {write : α → Json}
    (h : ∀ x, read (write x) = some x) (xs : List α) :
    list? read (array (xs.map write)) = some xs := by
  rw [list?]
  induction xs with
  | nil => rfl
  | cons x xs ih => simp [List.mapM_cons, h, ih]

theorem int?_int {low high v : Int} (hlow : low ≤ v) (hhigh : v ≤ high) :
    (int v).int? low high = some v := by
  have hsign : ¬(v < 0 ∧ v.natAbs = 0) := by omega
  have hvalue : (if v < 0 then -(v.natAbs : Int) else v.natAbs) = v := by
    split <;> omega
  have hnumber : Number.int? ⟨decide (v < 0), v.natAbs, 0, true⟩ = some v := by
    simp only [Number.int?, decide_eq_true_eq, true_and, hsign, not_false_eq_true, if_true, hvalue]
  change (Number.int? ⟨decide (v < 0), v.natAbs, 0, true⟩).filter _ = _
  rw [hnumber]
  exact Option.filter_some_pos (by simp [hlow, hhigh])

theorem nat?_nat {bound n : Nat} (h : n ≤ bound) : (nat n).nat? bound = some n := by
  rw [nat?, nat, int?_int (Int.natCast_nonneg n) (Int.ofNat_le.2 h)]
  rfl

end TaggedRpc.Json
