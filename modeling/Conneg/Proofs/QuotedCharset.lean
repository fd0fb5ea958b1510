import Conneg.Proofs.Suffix
import Conneg.Proofs.TextDecoding

/-!
# Conneg.Proofs.QuotedCharset

A character set with and without quotes.

1. The texts are those of a type and subtype, a first parameter `charset` and a tail,
   which holds further parameters or a last `;` at most. That parameter is read as it is
   written, whatever the tail is (`read_labelled`).
2. Without quotes, its value is the name of the character set in lowercase. So it is with
   quotes, unless the name is `utf-8` and further parameters follow: then the first five
   characters count, of which one is the quote (`param?_bare`, `param?_quoted`).
3. Main statement: `text_decodes_quoted`. `quoted_utf8_refused`: with a further parameter
   after it, quoting the name of UTF-8 makes bytes unreadable.
-/

namespace Conneg

open Text

namespace Text

/-! ## outer blanks around a part -/

/-- Blanks in front are dropped from the first text alone, if the second does not start
with one. -/
theorem dropWhile_isBlank_append {s t : List Char} (h : ∀ c ∈ t.head?, isBlank c = false) :
    (s ++ t).dropWhile isBlank = s.dropWhile isBlank ++ t := by
  rw [List.dropWhile_append]
  split
  · next hs => rw [dropWhile_isBlank_of_head h, List.isEmpty_iff.1 hs, List.nil_append]
  · rfl

/-- Blanks at the end are dropped from the second text alone, if the first does not end
with one. -/
theorem trimEnd_append {s t : List Char} (h : ∀ c ∈ s.getLast?, isBlank c = false) :
    trimEnd (s ++ t) = s ++ trimEnd t := by
  have hs : ∀ c ∈ s.reverse.head?, isBlank c = false := by rwa [List.head?_reverse]
  rw [trimEnd, trimEnd, List.reverse_append, dropWhile_isBlank_append hs, List.reverse_append,
    List.reverse_reverse]

/-- A part without outer blanks separates what is trimmed in front of it and behind it. -/
theorem trim_append_append {s part t : List Char} (hne : part ≠ []) (h : Trimmed part) :
    trim (s ++ (part ++ t)) = s.dropWhile isBlank ++ (part ++ trimEnd t) := by
  have hhead : ∀ c ∈ (part ++ t).head?, isBlank c = false := by
    rw [List.head?_append, List.head?_eq_some_head hne, Option.some_or, ← List.head?_eq_some_head]
    exact h.1
  have hlast : ∀ c ∈ (s.dropWhile isBlank ++ part).getLast?, isBlank c = false := by
    rw [List.getLast?_append, List.getLast?_eq_some_getLast hne, Option.some_or,
      ← List.getLast?_eq_some_getLast]
    exact h.2
  rw [trim, dropWhile_isBlank_append hhead, ← List.append_assoc, trimEnd_append hlast,
    List.append_assoc]

end Text

namespace MediaType

/-! ## a first parameter and what follows it -/

/-- The tail of a parameter: nothing, or a `;` and more. -/
theorem exists_ending {tail : List Char} (h : ∀ c ∈ tail.head?, c = ';') :
    ∃ rest, trimEnd tail = ending rest := by
  cases tail with
  | nil => exact ⟨none, rfl⟩
  | cons c tail =>
    obtain rfl : c = ';' := h c rfl
    have hlast : ∀ d ∈ [';'].getLast?, isBlank d = false := by
      rintro d ⟨⟩
      decide
    exact ⟨some (trimEnd tail), trimEnd_append (s := [';']) hlast⟩

/-- Further parameters follow: the tail is more than a last `;`. -/
def HoldsParams (tail : List Char) : Prop := trimEnd tail ≠ [] ∧ trimEnd tail ≠ [';']

instance (tail : List Char) : Decidable (HoldsParams tail) :=
  inferInstanceAs (Decidable (_ ∧ _))

/-- A tail holds parameters if some are read from it. -/
theorem holdsParams_iff {tail : List Char} {ps : List Param} {trailing : Bool}
    (h : trimEnd tail = ending (behindSemicolon ps trailing)) :
    HoldsParams tail ↔ ps ≠ [] := by
  rw [HoldsParams, h]
  cases ps with
  | nil => cases trailing <;> simp [behindSemicolon]
  | cons p ps => simp [behindSemicolon, Param.write]

/-- Spellings that agree up to the first `;` agree behind it. -/
theorem ending_eq_of_write {s : Spelling} (h : s.WellFormed) {front : List Char}
    (hfront : ';' ∉ front) {rest : List Char} (hwrite : s.write = front ++ ';' :: rest) :
    behindSemicolon s.params s.trailing = some rest := by
  have hall : ∀ c ∈ front, (c != ';') = true := by
    intro c hc
    rw [bne_iff_ne]
    rintro rfl
    exact hfront hc
  have hessence : s.essence = front := by
    rw [← front_write h, hwrite]
    exact takeWhile_run hall rfl
  rw [Spelling.write, hessence, List.append_assoc, ← ending_behindSemicolon] at hwrite
  have hending := List.append_cancel_left hwrite
  cases hbehind : behindSemicolon s.params s.trailing with
  | none =>
    rw [hbehind] at hending
    cases hending
  | some rest' =>
    rw [hbehind] at hending
    cases hending
    rfl

/-- A first parameter is read as it is written. -/
theorem read_labelled {front tail : List Char} {p : Param} {s : Spelling}
    (hfront : ';' ∉ front) (hp : p.WellFormed) (hvalue : p.value ≠ .bare [])
    (htail : ∀ c ∈ tail.head?, c = ';')
    (h : Spelling.read (front ++ (writeParams [p] ++ trimEnd tail)) = .ok s) :
    ∃ ps, s.params = p :: ps ∧ (HoldsParams tail ↔ ps ≠ []) := by
  obtain ⟨hwf, hwrite⟩ := Spelling.read_sound h
  obtain ⟨rest, hrest⟩ := exists_ending htail
  have htext : front ++ (writeParams [p] ++ trimEnd tail) =
      front ++ ';' :: (p.write ++ ending rest) := by
    simp [writeParams, hrest]
  rw [htext] at hwrite
  have hbehind := ending_eq_of_write hwf hfront hwrite
  have hread : readParam (p.write ++ ending rest) = .ok (p, rest) :=
    readParam_append hp fun _ => hvalue
  cases hparams : s.params with
  | nil =>
    rw [hparams] at hbehind
    cases htrailing : s.trailing <;> simp [htrailing, behindSemicolon, Param.write] at hbehind
  | cons q ps =>
    have hps := hparams ▸ hwf.params
    rw [hparams, behindSemicolon, Option.some.injEq] at hbehind
    have hread' := readParam_append (hps.each q List.mem_cons_self) hps.value_ne_nil
    rw [hbehind, hread] at hread'
    cases hread'
    exact ⟨ps, rfl, holdsParams_iff hrest⟩

/-! ## the value of `charset` -/

/-- The value of a first parameter is cut only if it is UTF-8 and others follow. -/
theorem viewParams_cons (p : Param) (ps : List Param) :
    ∃ others, viewParams (p :: ps) =
      (p.name, if ps ≠ [] ∧ p.isUtf8 then p.value.write.take 5 else p.value.text) :: others := by
  cases ps with
  | nil => exact ⟨[], rfl⟩
  | cons q ps => exact ⟨(q :: ps).map fun r => (r.name, r.value.text), by simp [viewParams]⟩

/-- A first parameter `charset` is the one that is found. -/
theorem param?_charset {m : MediaType} {p : Param} {ps : List Param}
    (hparams : m.spelling.params = p :: ps) (hname : p.name = charset) :
    m.param? "charset" = some (String.ofList
      (if ps ≠ [] ∧ p.isUtf8 then p.value.write.take 5 else p.value.text)) := by
  obtain ⟨others, hview⟩ := viewParams_cons p ps
  have hsame : sameLetters (String.ofList p.name).toList "charset".toList = true := by
    rw [hname]
    decide
  rw [param?, params, hparams, hview, List.map_cons, List.find?_cons_of_pos]
  · rfl
  · exact hsame

/-- The parameter ` charset=value`. -/
def labelled (value : ParamValue) : Param := ⟨1, charset, value⟩

theorem writeParams_labelled (value : ParamValue) :
    writeParams [labelled value] = "; charset=".toList ++ value.write := List.append_nil _

/-- The character set is put in lowercase, quoted or not. -/
theorem normalise_labelled (value : ParamValue) :
    (labelled value).normalise = labelled value.lower := by
  rw [labelled, Param.normalise, lower_charset, if_pos rfl, labelled]

/-- Whether the parameter is UTF-8 depends on the text of its value, in any letter
case. -/
theorem isUtf8_labelled (value : ParamValue) :
    (labelled value).isUtf8 = sameLetters value.text "utf-8".toList := by
  rw [labelled, Param.isUtf8, sameLetters_self]
  rfl

/-- The parameter is well formed if its value is. -/
theorem wellFormed_labelled {value : ParamValue} (h : value.WellFormed) :
    (labelled value).WellFormed where
  name_ne_nil := List.cons_ne_nil _ _
  name_token := List.all_eq_true (l := charset) (p := isToken) |>.1 (by decide)
  value := h

/-- Lowercase reaches the text between quotes, too. -/
theorem ParamValue.text_lower (value : ParamValue) : value.lower.text = Text.lower value.text := by
  cases value <;> rfl

/-- A first parameter `charset` has its value in lowercase, which is cut to five characters
as it is written if it is `utf-8` and others follow. -/
theorem param?_labelled {raw : String} {m : MediaType} {front tail : List Char}
    (value : ParamValue) (hfront : ';' ∉ front) (hvalue : value.WellFormed)
    (hne : value.write ≠ []) (hlast : ∀ c ∈ value.write.getLast?, isBlank c = false)
    (htail : ∀ c ∈ tail.head?, c = ';')
    (hraw : raw.toList = front ++ (writeParams [labelled value] ++ tail))
    (hparse : parse raw = .ok m) :
    m.param? "charset" = some (String.ofList
      (if HoldsParams tail ∧ sameLetters value.text "utf-8".toList then value.lower.write.take 5
        else lower value.text)) := by
  -- trimming changes the text before and behind the parameter and leaves the parameter whole
  have hcons : writeParams [labelled value] ≠ [] := List.cons_ne_nil _ _
  have htrimmed : Trimmed (writeParams [labelled value]) := by
    constructor
    · rintro c ⟨⟩
      decide
    · rw [writeParams_labelled, List.getLast?_append, List.getLast?_eq_some_getLast hne,
        Option.some_or, ← List.getLast?_eq_some_getLast]
      exact hlast
  obtain ⟨s, hread, hspelling⟩ := read_of_parse hparse
  rw [hraw, trim_append_append hcons htrimmed] at hread
  have hfront' : ';' ∉ front.dropWhile isBlank :=
    fun h => hfront ((List.dropWhile_sublist isBlank).subset h)
  have hbare : value ≠ .bare [] := by
    rintro rfl
    exact hne rfl
  obtain ⟨ps, hparams, hmore⟩ :=
    read_labelled hfront' (wellFormed_labelled hvalue) hbare htail hread
  have hnormal : m.spelling.params = labelled value.lower :: ps.map Param.normalise := by
    rw [hspelling, Spelling.normalise, hparams, List.map_cons, normalise_labelled]
  have hps : ps.map Param.normalise ≠ [] ↔ HoldsParams tail := by
    rw [hmore, ne_eq, List.map_eq_nil_iff]
  rw [param?_charset hnormal rfl, isUtf8_labelled, ParamValue.text_lower, sameLetters_lower_left]
  by_cases hcut : HoldsParams tail ∧ sameLetters value.text "utf-8".toList = true
  · rw [if_pos hcut, if_pos ⟨hps.2 hcut.1, hcut.2⟩]
    rfl
  · rw [if_neg hcut, if_neg fun h => hcut ⟨hps.1 h.1, h.2⟩, labelled, ParamValue.text_lower]

/-- A name of a character set: characters of tokens, at least one. -/
structure Token (s : List Char) : Prop where
  ne_nil : s ≠ []
  each : ∀ c ∈ s, isToken c = true

/-- A token does not end with a blank. -/
theorem Token.isBlank_getLast {s : List Char} (h : Token s) :
    ∀ c ∈ s.getLast?, isBlank c = false :=
  fun c hc => isBlank_of_isToken (h.each c (List.mem_of_getLast? hc))

/-- What can stand in a token can stand between quotes. -/
theorem isQuotedRest_of_isToken {c : Char} (h : isToken c = true) : isQuotedRest c = true :=
  of_isToken (P := fun c => isQuotedRest c = true) (by decide +kernel) h

/-- A token can stand between quotes. -/
theorem Token.wellFormed_quoted {s : List Char} (h : Token s) :
    (ParamValue.quoted s 0).WellFormed := by
  cases s with
  | nil => exact h.ne_nil rfl
  | cons c s =>
    have hrest : ∀ d ∈ c :: s, isQuotedRest d = true := fun d hd =>
      isQuotedRest_of_isToken (h.each d hd)
    have hfirst : isQuotable c = true :=
      (Bool.and_eq_true_iff.1 (hrest c List.mem_cons_self)).1
    exact ⟨hfirst, fun d hd => hrest d (List.mem_cons_of_mem c hd)⟩

section

variable {raw : String} {m : MediaType} {front token tail : List Char}

/-- Without quotes, the character set is the token in lowercase: a cut to five characters
leaves `utf-8` as it is. -/
theorem param?_bare (hfront : ';' ∉ front) (htoken : Token token)
    (htail : ∀ c ∈ tail.head?, c = ';')
    (hraw : raw.toList = front ++ ("; charset=".toList ++ token ++ tail))
    (hparse : parse raw = .ok m) : m.param? "charset" = some (String.ofList (lower token)) := by
  have hraw' : raw.toList = front ++ (writeParams [labelled (.bare token)] ++ tail) := by
    rw [hraw, writeParams_labelled, ParamValue.write]
  rw [param?_labelled (.bare token) hfront htoken.each htoken.ne_nil
    htoken.isBlank_getLast htail hraw' hparse]
  split
  · next h =>
    have hutf8 : lower token = "utf-8".toList := sameLetters_iff.1 h.2
    rw [ParamValue.lower, ParamValue.write, hutf8]
    rfl
  · rfl

/-- With quotes, it is the same, unless it is `utf-8` and others follow: then the quote counts
as the first of the five characters. -/
theorem param?_quoted (hfront : ';' ∉ front) (htoken : Token token)
    (htail : ∀ c ∈ tail.head?, c = ';')
    (hraw : raw.toList = front ++ ("; charset=".toList ++ ('"' :: token ++ ['"']) ++ tail))
    (hparse : parse raw = .ok m) :
    m.param? "charset" = some
      (if HoldsParams tail ∧ sameLetters token "utf-8".toList then "\"utf-"
        else String.ofList (lower token)) := by
  have hraw' : raw.toList = front ++ (writeParams [labelled (.quoted token 0)] ++ tail) := by
    rw [hraw, writeParams_labelled, ParamValue.write, List.replicate_zero]
  have hlast : ∀ c ∈ (ParamValue.quoted token 0).write.getLast?, isBlank c = false := by
    intro c hc
    rw [ParamValue.write, List.replicate_zero, List.getLast?_concat] at hc
    cases hc
    decide
  rw [param?_labelled (.quoted token 0) hfront htoken.wellFormed_quoted
    (List.cons_ne_nil _ _) hlast htail hraw' hparse, ParamValue.text]
  by_cases hcut : HoldsParams tail ∧ sameLetters token "utf-8".toList = true
  · have hutf8 : lower token = "utf-8".toList := sameLetters_iff.1 hcut.2
    rw [if_pos hcut, if_pos hcut, ParamValue.lower, ParamValue.write, hutf8]
    rfl
  · rw [if_neg hcut, if_neg hcut]

end

end MediaType

namespace Codec

/-- A content type that names a character set has bytes decoded under it. -/
theorem text_decode_of_param {h : HeaderSet} {raw : String} {m : MediaType} {charset : String}
    (hraw : h.map.get? contentTypeName = some (.string raw)) (hparse : MediaType.parse raw = .ok m)
    (hparam : m.param? "charset" = some charset) (bs : List UInt8) (target : PayloadType) :
    text.decode ⟨.bytes bs, h⟩ target = (decodeWith (some charset) bs).map some := by
  have hnamed : h.map.NamesCharset charset := ⟨raw, m, hraw, hparse, hparam⟩
  rw [text_decode_of_bytes rfl, charset?_eq_some_iff.2 hnamed]

/-- **Quoting a character set** changes what bytes are decoded as in one case only. Two content
types are texts of media types, with the same type and subtype, the same name of a character
set, in quotes in one of them, and the same tail. Bytes are decoded alike under both, by the
name in lowercase, unless the name is `utf-8` and the tail holds further parameters: then they
are decoded as UTF-8 without quotes, and refused with quotes. -/
theorem text_decodes_quoted {type charset tail : String} (htype : ';' ∉ type.toList)
    (hcharset : MediaType.Token charset.toList) (htail : ∀ c ∈ tail.toList.head?, c = ';')
    (hbare : (MediaType.parse (type ++ "; charset=" ++ charset ++ tail)).isOk = true)
    (hquoted : (MediaType.parse (type ++ "; charset=\"" ++ charset ++ "\"" ++ tail)).isOk = true)
    {g h : HeaderSet}
    (hg : g.map.get? contentTypeName =
      some (.string (type ++ "; charset=" ++ charset ++ tail)))
    (hh : h.map.get? contentTypeName =
      some (.string (type ++ "; charset=\"" ++ charset ++ "\"" ++ tail)))
    (bs : List UInt8) (target : PayloadType) :
    let bare := text.decode ⟨.bytes bs, g⟩ target
    let quoted := text.decode ⟨.bytes bs, h⟩ target
    let cut := MediaType.HoldsParams tail.toList ∧
      sameLetters charset.toList "utf-8".toList = true
    bare = (decodeWith (some (String.ofList (lower charset.toList))) bs).map some ∧
      (¬ cut → quoted = bare) ∧
      (cut → bare = (decodeText bs).map some ∧
        quoted = .error (.unsupportedCharset "\"utf-")) := by
  intro bare quoted cut
  obtain ⟨m, hm⟩ := MediaType.exists_of_isOk hbare
  obtain ⟨n, hn⟩ := MediaType.exists_of_isOk hquoted
  have hquote : "\"".toList = ['"'] := by decide
  have hopen : "; charset=\"".toList = "; charset=".toList ++ ['"'] := by decide
  have hbareParam := MediaType.param?_bare htype hcharset htail
    (by simp only [String.toList_append, List.append_assoc]) hm
  have hquotedParam := MediaType.param?_quoted htype hcharset htail
    (by simp only [String.toList_append, List.append_assoc, hquote, hopen, List.cons_append,
      List.nil_append]) hn
  have hbareDecode := text_decode_of_param hg hm hbareParam bs target
  have hquotedDecode := text_decode_of_param hh hn hquotedParam bs target
  refine ⟨hbareDecode, fun hcut => ?_, fun hcut => ⟨?_, ?_⟩⟩
  · rw [if_neg hcut] at hquotedDecode
    exact hquotedDecode.trans hbareDecode.symm
  · have hutf8 : lower charset.toList = "utf-8".toList := sameLetters_iff.1 hcut.2
    rw [hutf8] at hbareDecode
    exact hbareDecode
  · rw [if_pos hcut] at hquotedDecode
    exact hquotedDecode

/-- The other name of UTF-8 can be quoted, whatever follows. -/
theorem text_decodes_quoted_alike :
    let type := "Text/Plain"
    let tail := "; note=\"a;b\";"
    let bare := type ++ "; charset=" ++ "UTF8" ++ tail
    let quoted := type ++ "; charset=\"" ++ "UTF8" ++ "\"" ++ tail
    let g : HeaderSet := ⟨0, HeaderMap.empty.insert contentTypeName (.string bare)⟩
    let h : HeaderSet := ⟨1, HeaderMap.empty.insert contentTypeName (.string quoted)⟩
    (MediaType.parse bare).isOk = true ∧ (MediaType.parse quoted).isOk = true ∧
      text.decode ⟨.bytes (Utf8.encode "é".toList), h⟩ .text =
        text.decode ⟨.bytes (Utf8.encode "é".toList), g⟩ .text ∧
      text.decode ⟨.bytes (Utf8.encode "é".toList), g⟩ .text = .ok (some (.text "é")) := by
  intro type tail bare quoted g h
  have hbare : (MediaType.parse bare).isOk = true := by decide +kernel
  have hquoted : (MediaType.parse quoted).isOk = true := by decide +kernel
  have htail : ∀ c ∈ tail.toList.head?, c = ';' := by
    have hhead : tail.toList.head? = some ';' := by decide
    intro c hc
    rw [hhead] at hc
    cases hc
    rfl
  have hcharset : MediaType.Token "UTF8".toList :=
    ⟨by decide, List.all_eq_true.1 (by decide)⟩
  obtain ⟨hanswer, halike, -⟩ := @text_decodes_quoted type "UTF8" tail (by decide) hcharset
    htail hbare hquoted g h rfl rfl (Utf8.encode "é".toList) .text
  have hutf8 : isUtf8 (String.ofList (lower "UTF8".toList)) = true := by decide
  refine ⟨hbare, hquoted, halike fun hcut => absurd hcut.2 (by decide), ?_⟩
  rw [hanswer, decodeWith, if_pos hutf8, decodeText_encode]
  rfl

/-- **Quoted UTF-8 is refused** where another parameter follows: the same bytes are decoded
without the quotes. -/
theorem quoted_utf8_refused :
    let type := "text/plain"
    let tail := "; a=b"
    let bare := type ++ "; charset=" ++ "utf-8" ++ tail
    let quoted := type ++ "; charset=\"" ++ "utf-8" ++ "\"" ++ tail
    let g : HeaderSet := ⟨0, HeaderMap.empty.insert contentTypeName (.string bare)⟩
    let h : HeaderSet := ⟨1, HeaderMap.empty.insert contentTypeName (.string quoted)⟩
    let bs := Utf8.encode "é".toList
    (MediaType.parse bare).isOk = true ∧ (MediaType.parse quoted).isOk = true ∧
      text.decode ⟨.bytes bs, g⟩ .text = .ok (some (.text "é")) ∧
      text.decode ⟨.bytes bs, h⟩ .text = .error (.unsupportedCharset "\"utf-") ∧
      text.decode ⟨.bytes bs, h⟩ .text ≠ text.decode ⟨.bytes bs, g⟩ .text := by
  intro type tail bare quoted g h bs
  have hbare : charset? g.map = some "utf-8" := by decide +kernel
  have hquoted : charset? h.map = some "\"utf-" := by decide +kernel
  have hdecoded : text.decode ⟨.bytes bs, g⟩ .text = .ok (some (.text "é")) := by
    rw [text_decode_of_bytes rfl, hbare, decodeWith, if_pos (by decide), decodeText_encode]
    rfl
  have hrefused : text.decode ⟨.bytes bs, h⟩ .text = .error (.unsupportedCharset "\"utf-") := by
    rw [text_decode_of_bytes rfl, hquoted, decodeWith, if_neg (by decide)]
    rfl
  refine ⟨by decide +kernel, by decide +kernel, hdecoded, hrefused, ?_⟩
  rw [hdecoded, hrefused]
  rintro ⟨⟩

end Codec

end Conneg
