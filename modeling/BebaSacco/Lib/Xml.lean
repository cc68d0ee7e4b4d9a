import Mathlib.Data.List.Infix
import Mathlib.Tactic.Common

/-! # Documents of XML

A reader of documents of XML 1.0 that have elements, character data and the references to the five
predefined entities. It keeps the character data as it is written; `decode` gives what it stands
for, and `normalize` what a processor makes of its line ends. Every character of a document has to
be one that XML allows.

Results:
1. `escapeXml_eq`, `decode_escapeXml`: five replacements in this order are one pass, and are undone
   by decoding.
2. `normalize_escapeXml`: line ends are the same before and after.
3. `legal_of_read`, `read_render`: only allowed characters are read, and a well-formed document is
   read back.
4. `read_behind`: what a document has to begin with when it ends with well-formed nodes.
5. `renderNodes_spaced`: elements on lines of their own.
-/

namespace Xml

abbrev Text := List Char

/-! ## 1. Character data -/

/-- `Char` of XML 1.0. -/
def isXmlChar (c : Char) : Bool :=
  c == '\t' || c == '\n' || c == '\r' || (0x20 ≤ c.toNat && c.toNat ≤ 0xD7FF) ||
    (0xE000 ≤ c.toNat && c.toNat ≤ 0xFFFD) || 0x10000 ≤ c.toNat

/-- What character data stands for. -/
def decode : Text → Option Text
  | [] => some []
  | '&' :: 'a' :: 'm' :: 'p' :: ';' :: rest => (decode rest).map ('&' :: ·)
  | '&' :: 'l' :: 't' :: ';' :: rest => (decode rest).map ('<' :: ·)
  | '&' :: 'g' :: 't' :: ';' :: rest => (decode rest).map ('>' :: ·)
  | '&' :: 'q' :: 'u' :: 'o' :: 't' :: ';' :: rest => (decode rest).map ('"' :: ·)
  | '&' :: 'a' :: 'p' :: 'o' :: 's' :: ';' :: rest => (decode rest).map ('\'' :: ·)
  | c :: rest => if c = '&' then none else (decode rest).map (c :: ·)

/-- CR and CR LF become LF. -/
def normalize : Text → Text
  | [] => []
  | '\r' :: '\n' :: rest => '\n' :: normalize rest
  | c :: rest => (if c = '\r' then '\n' else c) :: normalize rest

/-- Character data: no markup, only known references, and no end of a CDATA section. -/
def isCharData (raw : Text) : Bool :=
  !raw.contains '<' && (decode raw).isSome && !raw.tails.any ("]]>".toList.isPrefixOf ·)

/-- `str.replace(/c/g, word)` -/
def replaceAll (c : Char) (word : String) (s : Text) : Text :=
  s.flatMap fun d => if d = c then word.toList else [d]

def escapeXml (s : Text) : Text :=
  replaceAll '\'' "&apos;" (replaceAll '"' "&quot;" (replaceAll '>' "&gt;"
    (replaceAll '<' "&lt;" (replaceAll '&' "&amp;" s))))

/-- What is written for a character. -/
def escapeChar (c : Char) : Text :=
  if c = '&' then "&amp;".toList
  else if c = '<' then "&lt;".toList
  else if c = '>' then "&gt;".toList
  else if c = '"' then "&quot;".toList
  else if c = '\'' then "&apos;".toList
  else [c]

theorem escapeChar_other {c : Char} (hamp : c ≠ '&') (hlt : c ≠ '<') (hgt : c ≠ '>')
    (hquot : c ≠ '"') (hapos : c ≠ '\'') : escapeChar c = [c] := by
  rw [escapeChar, if_neg hamp, if_neg hlt, if_neg hgt, if_neg hquot, if_neg hapos]

/-- What replaces a character holds nothing that is replaced later but the ampersands, which are
replaced first. -/
theorem escapeXml_eq (s : Text) : escapeXml s = s.flatMap escapeChar := by
  unfold escapeXml replaceAll
  simp only [List.flatMap_assoc]
  refine List.flatMap_congr fun c _ => ?_
  by_cases hamp : c = '&'
  · subst hamp
    rfl
  by_cases hlt : c = '<'
  · subst hlt
    rfl
  by_cases hgt : c = '>'
  · subst hgt
    rfl
  by_cases hquot : c = '"'
  · subst hquot
    rfl
  by_cases hapos : c = '\''
  · subst hapos
    rfl
  rw [escapeChar_other hamp hlt hgt hquot hapos]
  simp only [List.flatMap_cons, List.flatMap_nil, List.append_nil, hamp, hlt, hgt, hquot, hapos,
    if_false]

theorem decode_other {c : Char} (h : c ≠ '&') (rest : Text) :
    decode (c :: rest) = (decode rest).map (c :: ·) := by
  rw [decode]
  · exact if_neg h
  all_goals exact fun _ heq _ => h heq

/-- Decoding undoes the escape. -/
theorem decode_escapeXml (s : Text) : decode (escapeXml s) = some s := by
  rw [escapeXml_eq]
  induction s with
  | nil => rfl
  | cons c cs ih =>
    rw [List.flatMap_cons]
    by_cases hamp : c = '&'
    · subst hamp
      exact congrArg (Option.map ('&' :: ·)) ih
    by_cases hlt : c = '<'
    · subst hlt
      exact congrArg (Option.map ('<' :: ·)) ih
    by_cases hgt : c = '>'
    · subst hgt
      exact congrArg (Option.map ('>' :: ·)) ih
    by_cases hquot : c = '"'
    · subst hquot
      exact congrArg (Option.map ('"' :: ·)) ih
    by_cases hapos : c = '\''
    · subst hapos
      exact congrArg (Option.map ('\'' :: ·)) ih
    rw [escapeChar_other hamp hlt hgt hquot hapos, List.singleton_append, decode_other hamp, ih]
    rfl

theorem not_mem_escapeXml {c : Char} (hc : c = '<' ∨ c = '>') (s : Text) : c ∉ escapeXml s := by
  rw [escapeXml_eq]
  intro hmem
  obtain ⟨d, _, hd⟩ := List.mem_flatMap.mp hmem
  unfold escapeChar at hd
  split_ifs at hd with hamp hlt hgt hquot hapos
  iterate 5
    · rcases hc with rfl | rfl <;> exact absurd hd (by decide)
  · obtain rfl := List.mem_singleton.mp hd
    rcases hc with rfl | rfl
    · exact hlt rfl
    · exact hgt rfl

/-- Text without markup is character data. -/
theorem isCharData_of {raw : Text} (hlt : '<' ∉ raw) (hgt : '>' ∉ raw)
    (hdecode : (decode raw).isSome = true) : isCharData raw = true := by
  have hcdata : raw.tails.any ("]]>".toList.isPrefixOf ·) = false := by
    rw [List.any_eq_false]
    intro tail hmem hprefix
    have hsuffix := ((List.mem_tails _ _).mp hmem).subset
    have hstart := (List.isPrefixOf_iff_prefix.mp hprefix).subset
    exact hgt (hsuffix (hstart (by decide)))
  rw [isCharData, hdecode, hcdata, List.contains_eq_mem, decide_eq_false hlt]
  rfl

theorem isCharData_escapeXml (s : Text) : isCharData (escapeXml s) = true :=
  isCharData_of (not_mem_escapeXml (.inl rfl) s) (not_mem_escapeXml (.inr rfl) s)
    (by rw [decode_escapeXml]; rfl)

/-- The allowed characters of a text are those of what is written for it. -/
theorem all_escapeXml (s : Text) : (escapeXml s).all isXmlChar = s.all isXmlChar := by
  rw [escapeXml_eq]
  induction s with
  | nil => rfl
  | cons c cs ih =>
    have hchar : (escapeChar c).all isXmlChar = isXmlChar c := by
      unfold escapeChar
      split_ifs with hamp hlt hgt hquot hapos
      · rw [hamp]; decide
      · rw [hlt]; decide
      · rw [hgt]; decide
      · rw [hquot]; decide
      · rw [hapos]; decide
      · rw [List.all_cons, List.all_nil, Bool.and_true]
    rw [List.flatMap_cons, List.all_append, List.all_cons, hchar, ih]

/-! ## 2. Line ends -/

theorem normalize_other {c : Char} (h : c ≠ '\r') (rest : Text) :
    normalize (c :: rest) = c :: normalize rest := by
  rw [normalize, if_neg h]
  exact fun _ heq _ => h heq

theorem normalize_append {s : Text} (h : '\r' ∉ s) (t : Text) :
    normalize (s ++ t) = s ++ normalize t := by
  induction s with
  | nil => rfl
  | cons c cs ih =>
    rw [List.mem_cons, not_or] at h
    rw [List.cons_append, normalize_other (fun heq => h.1 heq.symm), ih h.2]
    rfl

theorem not_cr_escapeChar {c : Char} (h : c ≠ '\r') : '\r' ∉ escapeChar c := by
  unfold escapeChar
  split_ifs with hamp hlt hgt hquot hapos
  · decide
  · decide
  · decide
  · decide
  · decide
  · rw [List.mem_singleton]
    exact fun heq => h heq.symm

/-- Line ends are the same before the escape and after it. -/
theorem normalize_escapeXml (s : Text) : normalize (escapeXml s) = escapeXml (normalize s) := by
  rw [escapeXml_eq, escapeXml_eq]
  fun_induction normalize s with
  | case1 => rfl
  | case2 rest ih =>
    show normalize ('\r' :: '\n' :: rest.flatMap escapeChar) =
      '\n' :: (normalize rest).flatMap escapeChar
    rw [normalize, ih]
  | case3 c rest hpair ih =>
    by_cases hcr : c = '\r'
    · subst hcr
      rw [if_pos rfl]
      have hhead : ∀ tail, rest.flatMap escapeChar ≠ '\n' :: tail := by
        intro tail heq
        cases rest with
        | nil => cases heq
        | cons d ds =>
          have hd : d ≠ '\n' := fun heq' => hpair ds rfl (by rw [heq'])
          rw [List.flatMap_cons] at heq
          unfold escapeChar at heq
          split_ifs at heq
          all_goals first
            | exact absurd (List.cons.inj heq).1 (by decide)
            | exact hd (List.cons.inj heq).1
      show normalize ('\r' :: rest.flatMap escapeChar) = '\n' :: (normalize rest).flatMap escapeChar
      rw [normalize, ih, if_pos rfl]
      exact fun tail _ heq => hhead tail heq
    · rw [if_neg hcr, List.flatMap_cons, List.flatMap_cons,
        normalize_append (not_cr_escapeChar hcr), ih]

theorem not_cr_normalize (s : Text) : '\r' ∉ normalize s := by
  fun_induction normalize s with
  | case1 => exact List.not_mem_nil
  | case2 rest ih =>
    rw [List.mem_cons, not_or]
    exact ⟨by decide, ih⟩
  | case3 c rest _ ih =>
    rw [List.mem_cons, not_or]
    refine ⟨?_, ih⟩
    split
    · decide
    · next hcr => exact fun heq => hcr heq.symm

theorem normalize_eq_self_iff (s : Text) : normalize s = s ↔ '\r' ∉ s := by
  refine ⟨fun h => h ▸ not_cr_normalize s, fun h => ?_⟩
  have happend := normalize_append h []
  rw [List.append_nil] at happend
  exact happend.trans (List.append_nil s)

/-! ## 3. Documents -/

inductive Node where
  | text (raw : Text)
  | element (name attributes : Text) (children : List Node)

def Node.isText : Node → Bool
  | .text _ => true
  | .element _ _ _ => false

def Node.name : Node → Text
  | .text _ => []
  | .element name _ _ => name

/-- The elements in an element. -/
def Node.elements : Node → List Node
  | .text _ => []
  | .element _ _ children => children.filter fun child => !child.isText

/-- The character data of an element that holds nothing else. -/
def Node.data : Node → Option Text
  | .element _ _ [] => some []
  | .element _ _ [.text raw] => some raw
  | _ => none

def isNameStart (c : Char) : Bool := c.isAlpha || c == '_' || c == ':'

def isNameChar (c : Char) : Bool := isNameStart c || c.isDigit || c == '-' || c == '.'

/-- A name in ASCII letters, digits and the signs of names. -/
def isName : Text → Bool
  | [] => false
  | c :: cs => isNameStart c && cs.all isNameChar

/-- The rest of a quoted value. -/
def isValue : Text → Bool
  | [] => false
  | '"' :: rest => rest.isEmpty
  | c :: rest => c != '<' && c != '>' && c != '&' && isValue rest

/-- No attribute or one. -/
def isAttributes : Text → Bool
  | [] => true
  | ' ' :: rest =>
    isName (rest.takeWhile (· != '=')) &&
      match rest.dropWhile (· != '=') with
      | '=' :: '"' :: value => isValue value
      | _ => false
  | _ => false

mutual

/-- Names, attributes and character data are well formed, and no two texts stand side by side. -/
def wellFormed : Node → Bool
  | .text raw => !raw.isEmpty && isCharData raw
  | .element name attributes children =>
    isName name && isAttributes attributes && wellFormedNodes children

def wellFormedNodes : List Node → Bool
  | [] => true
  | node :: nodes =>
    wellFormed node && !(node.isText && nodes.head?.any Node.isText) && wellFormedNodes nodes

end

mutual

def render : Node → Text
  | .text raw => raw
  | .element name attributes children =>
    '<' :: (name ++ attributes ++ '>' :: (renderNodes children ++ '<' :: '/' :: (name ++ ['>'])))

def renderNodes : List Node → Text
  | [] => []
  | node :: nodes => render node ++ renderNodes nodes

end

/-! ## 4. The reader -/

/-- An element that has been opened, and its children so far. -/
structure Opened where
  name : Text
  attributes : Text
  before : List Node

/-- The elements that are open, the character data since the last tag, the tag that is being read,
and the document element once it has been closed. -/
structure Reading where
  stack : List Opened
  data : Text
  tag : Option Text
  root : Option Node

/-- Nothing has been read. -/
def start : Reading := ⟨[], [], none, none⟩

def Opened.add (o : Opened) (nodes : List Node) : Opened := { o with before := o.before ++ nodes }

/-- The text that character data makes. -/
def textPart (raw : Text) : List Node := if raw.isEmpty then [] else [.text raw]

/-- Character data ends; it stands in an element. -/
def flush (s : Reading) : Option Reading :=
  if s.data.isEmpty then some s
  else
    match s.stack with
    | [] => none
    | o :: stack =>
      if isCharData s.data then some { s with stack := o.add [.text s.data] :: stack, data := [] }
      else none

def openTag (s : Reading) (tag : Text) : Option Reading :=
  let name := tag.takeWhile (· != ' ')
  let attributes := tag.dropWhile (· != ' ')
  if isName name && isAttributes attributes && (!s.stack.isEmpty || s.root.isNone) then
    some { s with stack := ⟨name, attributes, []⟩ :: s.stack, tag := none }
  else none

def closeTag (s : Reading) (name : Text) : Option Reading :=
  match s.stack with
  | [] => none
  | o :: stack =>
    if o.name = name then
      let node := Node.element o.name o.attributes o.before
      match stack with
      | [] => some { s with stack := [], tag := none, root := some node }
      | parent :: stack => some { s with stack := parent.add [node] :: stack, tag := none }
    else none

def step (s : Reading) (c : Char) : Option Reading :=
  match s.tag with
  | none =>
    if c = '<' then (flush s).map fun s => { s with tag := some [] }
    else some { s with data := s.data ++ [c] }
  | some tag =>
    if c = '<' then none
    else if c = '>' then
      match tag with
      | '/' :: name => closeTag s name
      | _ => openTag s tag
    else some { s with tag := some (tag ++ [c]) }

def readFrom (s : Reading) (text : Text) : Option Reading := text.foldlM step s

def declaration : Text := "<?xml version=\"1.0\" encoding=\"UTF-8\"?>\n".toList

/-- The document element of a document with this declaration; nothing stands behind it. -/
def read (text : Text) : Option Node :=
  if text.all isXmlChar && declaration.isPrefixOf text then
    match readFrom start (text.drop declaration.length) with
    | some ⟨[], [], none, root⟩ => root
    | _ => none
  else none

theorem legal_of_read {text : Text} {root : Node} (h : read text = some root) :
    text.all isXmlChar = true := by
  unfold read at h
  split at h
  · next hlegal => exact (Bool.and_eq_true_iff.mp hlegal).1
  · cases h

/-! ## 5. What the reader does with well-formed documents -/

variable {s : Reading} {o : Opened} {stack : List Opened} {name attributes raw tag : Text}
  {root : Option Node}

theorem readFrom_cons (s : Reading) (c : Char) (text : Text) :
    readFrom s (c :: text) = (step s c).bind fun s => readFrom s text :=
  List.foldlM_cons

/-- Character data is collected. -/
theorem readFrom_data (h : '<' ∉ raw) (stack : List Opened) (data rest : Text) :
    readFrom ⟨stack, data, none, root⟩ (raw ++ rest) =
      readFrom ⟨stack, data ++ raw, none, root⟩ rest := by
  induction raw generalizing data with
  | nil => rw [List.append_nil]; rfl
  | cons c cs ih =>
    rw [List.mem_cons, not_or] at h
    have hstep : step ⟨stack, data, none, root⟩ c = some ⟨stack, data ++ [c], none, root⟩ :=
      if_neg fun heq => h.1 heq.symm
    rw [List.cons_append, readFrom_cons, hstep, Option.bind_some, ih h.2, List.append_assoc]
    rfl

theorem not_lt_of_isCharData (h : isCharData raw = true) : '<' ∉ raw := by
  rw [isCharData, Bool.and_eq_true, Bool.and_eq_true, Bool.not_eq_true', List.contains_eq_mem,
    decide_eq_false_iff_not] at h
  exact h.1.1

/-- A tag is collected. -/
theorem readFrom_tag (h : ∀ c ∈ name, c ≠ '<' ∧ c ≠ '>') (stack : List Opened) (tag rest : Text) :
    readFrom ⟨stack, [], some tag, root⟩ (name ++ rest) =
      readFrom ⟨stack, [], some (tag ++ name), root⟩ rest := by
  induction name generalizing tag with
  | nil => rw [List.append_nil]; rfl
  | cons c cs ih =>
    rw [List.forall_mem_cons] at h
    have hstep : step ⟨stack, [], some tag, root⟩ c = some ⟨stack, [], some (tag ++ [c]), root⟩ :=
      (if_neg h.1.1).trans (if_neg h.1.2)
    rw [List.cons_append, readFrom_cons, hstep, Option.bind_some, ih h.2, List.append_assoc]
    rfl

/-- Character data ends at a tag. -/
theorem readFrom_flush (h : raw ≠ [] → isCharData raw = true) (rest : Text) :
    readFrom ⟨o :: stack, raw, none, root⟩ ('<' :: rest) =
      readFrom ⟨o.add (textPart raw) :: stack, [], some [], root⟩ rest := by
  have hstep : step ⟨o :: stack, raw, none, root⟩ '<' =
      some ⟨o.add (textPart raw) :: stack, [], some [], root⟩ := by
    show (flush ⟨o :: stack, raw, none, root⟩).map _ = _
    unfold flush textPart
    cases raw with
    | nil =>
      show some _ = some _
      rw [List.isEmpty_nil, if_pos rfl, Opened.add, List.append_nil]
    | cons c cs =>
      rw [if_neg (by rw [List.isEmpty_cons]; exact Bool.false_ne_true),
        if_neg (by rw [List.isEmpty_cons]; exact Bool.false_ne_true)]
      dsimp only
      rw [if_pos (h (List.cons_ne_nil c cs))]
      rfl
  rw [readFrom_cons, hstep, Option.bind_some]

theorem nameChar_ne {c d : Char} (h : isNameChar c = true) (hd : isNameChar d = false) : c ≠ d := by
  rintro rfl
  rw [h] at hd
  cases hd

theorem isName_chars (h : isName name = true) : ∀ c ∈ name, isNameChar c = true := by
  cases name with
  | nil => cases h
  | cons c cs =>
    obtain ⟨hstart, hchars⟩ := Bool.and_eq_true_iff.mp h
    rw [List.forall_mem_cons]
    refine ⟨?_, List.all_eq_true.mp hchars⟩
    rw [isNameChar, hstart, Bool.true_or, Bool.true_or, Bool.true_or]

theorem isValue_chars (h : isValue raw = true) : ∀ c ∈ raw, c ≠ '<' ∧ c ≠ '>' := by
  fun_induction isValue raw with
  | case1 => cases h
  | case2 rest =>
    rw [List.isEmpty_iff.mp h, List.forall_mem_singleton]
    exact ⟨by decide, by decide⟩
  | case3 c rest _ ih =>
    rw [Bool.and_eq_true, Bool.and_eq_true, Bool.and_eq_true, bne_iff_ne, bne_iff_ne,
      bne_iff_ne] at h
    rw [List.forall_mem_cons]
    exact ⟨⟨h.1.1.1, h.1.1.2⟩, ih h.2⟩

/-- Attributes begin with a blank, and have no bracket. -/
theorem isAttributes_chars (h : isAttributes attributes = true) :
    (∀ c ∈ attributes, c ≠ '<' ∧ c ≠ '>') ∧ attributes.head?.all (· == ' ') = true := by
  unfold isAttributes at h
  split at h
  · exact ⟨fun _ hmem => absurd hmem List.not_mem_nil, rfl⟩
  · next rest =>
    refine ⟨?_, rfl⟩
    obtain ⟨hname, hvalue⟩ := Bool.and_eq_true_iff.mp h
    have hkey : ∀ c ∈ rest.takeWhile (· != '='), c ≠ '<' ∧ c ≠ '>' := fun c hc =>
      ⟨nameChar_ne (isName_chars hname c hc) (by decide),
        nameChar_ne (isName_chars hname c hc) (by decide)⟩
    have hrest : ∀ c ∈ rest.dropWhile (· != '='), c ≠ '<' ∧ c ≠ '>' := by
      split at hvalue
      · next value heq =>
        rw [heq, List.forall_mem_cons, List.forall_mem_cons]
        exact ⟨⟨by decide, by decide⟩, ⟨by decide, by decide⟩, isValue_chars hvalue⟩
      · cases hvalue
    rw [List.forall_mem_cons]
    refine ⟨⟨by decide, by decide⟩, fun c hc => ?_⟩
    rw [← List.takeWhile_append_dropWhile (p := (· != '=')) (l := rest)] at hc
    rcases List.mem_append.mp hc with hc | hc
    · exact hkey c hc
    · exact hrest c hc
  · cases h

/-- A tag is taken apart at its first blank. -/
theorem split_tag (hname : isName name = true) (hattributes : isAttributes attributes = true) :
    (name ++ attributes).takeWhile (· != ' ') = name ∧
      (name ++ attributes).dropWhile (· != ' ') = attributes := by
  have hchars : ∀ c ∈ name, (c != ' ') = true := fun c hc =>
    bne_iff_ne.mpr (nameChar_ne (isName_chars hname c hc) (by decide))
  have hhead := (isAttributes_chars hattributes).2
  rw [List.takeWhile_append_of_pos hchars, List.dropWhile_append_of_pos hchars]
  cases attributes with
  | nil => exact ⟨List.append_nil name, rfl⟩
  | cons c cs =>
    obtain rfl : c = ' ' := beq_iff_eq.mp hhead
    exact ⟨List.append_nil name, rfl⟩

/-- The rest of a start tag. -/
theorem readFrom_open (hname : isName name = true) (hattributes : isAttributes attributes = true)
    (hplace : (!stack.isEmpty || root.isNone) = true) (rest : Text) :
    readFrom ⟨stack, [], some [], root⟩ (name ++ attributes ++ '>' :: rest) =
      readFrom ⟨⟨name, attributes, []⟩ :: stack, [], none, root⟩ rest := by
  have hchars : ∀ c ∈ name ++ attributes, c ≠ '<' ∧ c ≠ '>' := by
    rw [List.forall_mem_append]
    exact ⟨fun c hc => ⟨nameChar_ne (isName_chars hname c hc) (by decide),
      nameChar_ne (isName_chars hname c hc) (by decide)⟩, (isAttributes_chars hattributes).1⟩
  have hopen : openTag ⟨stack, [], some (name ++ attributes), root⟩ (name ++ attributes) =
      some ⟨⟨name, attributes, []⟩ :: stack, [], none, root⟩ := by
    unfold openTag
    dsimp only
    rw [(split_tag hname hattributes).1, (split_tag hname hattributes).2, hname, hattributes,
      hplace]
    rfl
  have hstep : step ⟨stack, [], some (name ++ attributes), root⟩ '>' =
      some ⟨⟨name, attributes, []⟩ :: stack, [], none, root⟩ := by
    cases name with
    | nil => cases hname
    | cons c cs =>
      have hslash : c ≠ '/' := nameChar_ne (isName_chars hname c List.mem_cons_self) (by decide)
      rw [← hopen]
      unfold step
      dsimp only
      rw [if_neg (by decide), if_pos rfl]
      split
      · next heq => exact absurd (List.cons.inj heq).1 hslash
      · rfl
  rw [readFrom_tag hchars, readFrom_cons, List.nil_append, hstep, Option.bind_some]

/-- The rest of an end tag. -/
theorem readFrom_close (hname : isName name = true) (stack : List Opened) (root : Option Node)
    (rest : Text) :
    readFrom ⟨stack, [], some [], root⟩ ('/' :: (name ++ '>' :: rest)) =
      (closeTag ⟨stack, [], some ('/' :: name), root⟩ name).bind fun s => readFrom s rest := by
  have hchars : ∀ c ∈ '/' :: name, c ≠ '<' ∧ c ≠ '>' := by
    rw [List.forall_mem_cons]
    exact ⟨⟨by decide, by decide⟩, fun c hc =>
      ⟨nameChar_ne (isName_chars hname c hc) (by decide),
        nameChar_ne (isName_chars hname c hc) (by decide)⟩⟩
  have hstep : step ⟨stack, [], some ('/' :: name), root⟩ '>' =
      closeTag ⟨stack, [], some ('/' :: name), root⟩ name := rfl
  rw [← List.cons_append, readFrom_tag hchars, readFrom_cons, List.nil_append, hstep]

theorem add_add (o : Opened) (nodes nodes' : List Node) :
    (o.add nodes).add nodes' = o.add (nodes ++ nodes') := by
  rw [Opened.add, Opened.add, Opened.add, List.append_assoc]

/-- The rest of an element behind its opening bracket is read. -/
def ReadsElement (root : Option Node) (name attributes : Text) (children : List Node) : Prop :=
  ∀ (o : Opened) (stack : List Opened) (rest : Text),
    readFrom ⟨o :: stack, [], some [], root⟩ (name ++ attributes ++ '>' ::
      (renderNodes children ++ '<' :: '/' :: (name ++ '>' :: rest))) =
      readFrom ⟨o.add [.element name attributes children] :: stack, [], none, root⟩ rest

/-- Behind character data that has not ended yet, nodes are read up to the next bracket. -/
def ReadsNodes (root : Option Node) (nodes : List Node) : Prop :=
  ∀ (o : Opened) (stack : List Opened) (data : Text),
    (data.isEmpty || isCharData data && !nodes.head?.any Node.isText) = true → ∀ rest : Text,
    readFrom ⟨o :: stack, data, none, root⟩ (renderNodes nodes ++ '<' :: rest) =
      readFrom ⟨o.add (textPart data ++ nodes) :: stack, [], some [], root⟩ rest

theorem isCharData_of_data {p : Bool} (h : (raw.isEmpty || isCharData raw && p) = true)
    (hne : raw ≠ []) : isCharData raw = true := by
  rw [List.isEmpty_eq_false_iff.mpr hne, Bool.false_or, Bool.and_eq_true] at h
  exact h.1

theorem reads_element {children : List Node} (hname : isName name = true)
    (hattributes : isAttributes attributes = true) (hchildren : ReadsNodes root children) :
    ReadsElement root name attributes children := by
  intro o stack rest
  have hclose : closeTag ⟨(⟨name, attributes, []⟩ : Opened).add (textPart [] ++ children) ::
      o :: stack, [], some ('/' :: name), root⟩ name =
      some ⟨o.add [.element name attributes children] :: stack, [], none, root⟩ := if_pos rfl
  rw [readFrom_open hname hattributes rfl,
    hchildren ⟨name, attributes, []⟩ (o :: stack) [] rfl, readFrom_close hname, hclose,
    Option.bind_some]

theorem reads_nil : ReadsNodes root [] := by
  intro o stack data hdata rest
  rw [renderNodes, List.nil_append, readFrom_flush (isCharData_of_data hdata), List.append_nil]

/-- A text is the character data of the nodes behind it, none of which is a text at first. -/
theorem reads_text {nodes : List Node} (hne : raw ≠ []) (hraw : isCharData raw = true)
    (happart : nodes.head?.any Node.isText = false) (hnodes : ReadsNodes root nodes) :
    ReadsNodes root (.text raw :: nodes) := by
  intro o stack data hdata rest
  have hempty : data = [] := by
    have htext : (Node.text raw :: nodes).head?.any Node.isText = true := rfl
    rw [htext, Bool.not_true, Bool.and_false, Bool.or_false] at hdata
    exact List.isEmpty_iff.mp hdata
  have hnext : (raw.isEmpty || isCharData raw && !nodes.head?.any Node.isText) = true := by
    rw [hraw, happart, Bool.not_false, Bool.and_true, Bool.or_true]
  have hpart : textPart raw = [.text raw] := by
    rw [textPart, List.isEmpty_eq_false_iff.mpr hne, if_neg Bool.false_ne_true]
  rw [hempty, renderNodes, render, List.append_assoc, readFrom_data (not_lt_of_isCharData hraw),
    List.nil_append, hnodes o stack raw hnext, hpart]
  rfl

theorem reads_cons {children nodes : List Node}
    (helement : ReadsElement root name attributes children) (hnodes : ReadsNodes root nodes) :
    ReadsNodes root (.element name attributes children :: nodes) := by
  intro o stack data hdata rest
  have htext : renderNodes (.element name attributes children :: nodes) ++ '<' :: rest =
      '<' :: (name ++ attributes ++ '>' :: (renderNodes children ++
        '<' :: '/' :: (name ++ '>' :: (renderNodes nodes ++ '<' :: rest)))) := by
    rw [renderNodes, render]
    simp only [List.append_assoc, List.cons_append, List.nil_append]
  rw [htext, readFrom_flush (isCharData_of_data hdata), helement, hnodes _ stack [] rfl, add_add,
    add_add]
  rfl

mutual

theorem readFrom_element : ∀ (name attributes : Text) (children : List Node),
    wellFormed (.element name attributes children) = true → ReadsElement root name attributes children
  | name, attributes, children, h => by
    rw [wellFormed, Bool.and_eq_true, Bool.and_eq_true] at h
    exact reads_element h.1.1 h.1.2 (readFrom_nodes children h.2)

theorem readFrom_nodes : ∀ nodes : List Node, wellFormedNodes nodes = true →
    ReadsNodes root nodes
  | [], _ => reads_nil
  | .text raw :: nodes, h => by
    rw [wellFormedNodes, wellFormed, Bool.and_eq_true, Bool.and_eq_true, Bool.and_eq_true,
      Bool.not_eq_true', Bool.not_eq_true', List.isEmpty_eq_false_iff] at h
    obtain ⟨⟨⟨hne, hraw⟩, happart⟩, hnodes⟩ := h
    exact reads_text hne hraw happart (readFrom_nodes nodes hnodes)
  | .element name attributes children :: nodes, h => by
    rw [wellFormedNodes, Bool.and_eq_true, Bool.and_eq_true] at h
    exact reads_cons (readFrom_element name attributes children h.1.1)
      (readFrom_nodes nodes h.2)

end

/-- What `read` finds. -/
theorem read_eq_some {text : Text} {root : Node} :
    read (declaration ++ text) = some root ↔
      text.all isXmlChar = true ∧ readFrom start text = some ⟨[], [], none, some root⟩ := by
  have hprefix : declaration.isPrefixOf (declaration ++ text) = true :=
    List.isPrefixOf_iff_prefix.mpr (List.prefix_append _ _)
  have hdeclaration : declaration.all isXmlChar = true := by decide
  rw [read, List.all_append, hdeclaration, hprefix, Bool.and_true, Bool.true_and, List.drop_left]
  constructor
  · intro h
    split at h
    · next hlegal =>
      refine ⟨hlegal, ?_⟩
      split at h
      · next heq => rw [heq, h]
      · cases h
    · cases h
  · rintro ⟨hlegal, hrun⟩
    rw [hrun, if_pos hlegal]

/-- A document with allowed characters whose element is well formed is read back. -/
theorem read_render {children : List Node}
    (h : wellFormed (.element name attributes children) = true)
    (hlegal : (render (.element name attributes children)).all isXmlChar = true) :
    read (declaration ++ render (.element name attributes children)) =
      some (.element name attributes children) := by
  refine read_eq_some.mpr ⟨hlegal, ?_⟩
  rw [wellFormed, Bool.and_eq_true, Bool.and_eq_true] at h
  have hfirst : ∀ rest, readFrom start ('<' :: rest) =
      readFrom ⟨[], [], some [], none⟩ rest := fun _ => rfl
  have hclose : closeTag ⟨[(⟨name, attributes, []⟩ : Opened).add (textPart [] ++ children)], [],
      some ('/' :: name), none⟩ name =
      some ⟨[], [], none, some (.element name attributes children)⟩ := if_pos rfl
  rw [render, hfirst, readFrom_open h.1.1 h.1.2 rfl,
    readFrom_nodes children h.2 ⟨name, attributes, []⟩ [] [] rfl, readFrom_close h.1.1, hclose]
  rfl

/-! ## 6. Documents with an unknown beginning -/

def endTag (name : Text) : Text := '<' :: '/' :: (name ++ ['>'])

theorem readFrom_append (s : Reading) (text rest : Text) :
    readFrom s (text ++ rest) = (readFrom s text).bind fun s => readFrom s rest :=
  List.foldlM_append

theorem flush_data {s' : Reading} (h : flush s = some s') : s'.data = [] := by
  unfold flush at h
  split at h
  · next hempty =>
    rw [← Option.some.inj h]
    exact List.isEmpty_iff.mp hempty
  · split at h
    · cases h
    · split at h
      · rw [← Option.some.inj h]
      · cases h

theorem closeTag_pending {s' : Reading} (h : closeTag s name = some s') :
    s'.data = s.data ∧ s'.tag = none := by
  unfold closeTag at h
  split at h
  · cases h
  · split at h
    · dsimp only at h
      split at h
      · rw [← Option.some.inj h]
        exact ⟨rfl, rfl⟩
      · rw [← Option.some.inj h]
        exact ⟨rfl, rfl⟩
    · cases h

/-- Nothing is pending behind an end tag, whatever stands before it. -/
theorem pending_endTag {s' : Reading} (hname : isName name = true)
    (h : readFrom s (endTag name) = some s') : s'.data = [] ∧ s'.tag = none := by
  rw [endTag, readFrom_cons] at h
  obtain ⟨first, hfirst, hrest⟩ := Option.bind_eq_some_iff.mp h
  rcases s with ⟨stack, data, tag, root⟩
  cases tag with
  | some tag => cases hfirst
  | none =>
    obtain ⟨flushed, hflush, rfl⟩ := Option.map_eq_some_iff.mp hfirst
    have hdata := flush_data hflush
    rcases flushed with ⟨stack', data', tag', root'⟩
    obtain rfl : data' = [] := hdata
    rw [readFrom_close hname] at hrest
    obtain ⟨closed, hclose, hclosed⟩ := Option.bind_eq_some_iff.mp hrest
    obtain rfl := Option.some.inj hclosed
    exact closeTag_pending hclose

theorem head_not_text {nodes : List Node} (hnodes : wellFormedNodes (.text raw :: nodes) = true) :
    isCharData raw = true ∧ raw ≠ [] ∧ nodes.head?.any Node.isText = false := by
  rw [wellFormedNodes, wellFormed, Bool.and_eq_true, Bool.and_eq_true, Bool.and_eq_true,
    Bool.not_eq_true', Bool.not_eq_true', Bool.and_eq_false_iff] at hnodes
  obtain ⟨⟨⟨hne, hraw⟩, hhead⟩, _⟩ := hnodes
  refine ⟨hraw, List.isEmpty_eq_false_iff.mp hne, ?_⟩
  rcases hhead with htext | hhead
  · cases htext
  · exact hhead

/-- Character data does not stand outside of the document element. -/
theorem readFrom_outside {nodes : List Node} (hnodes : wellFormedNodes (.text raw :: nodes) = true)
    (rest : Text) :
    readFrom ⟨[], [], none, root⟩ (renderNodes (.text raw :: nodes) ++ '<' :: rest) = none := by
  obtain ⟨hraw, hne, hhead⟩ := head_not_text hnodes
  have hbracket : ∃ behind, renderNodes nodes ++ '<' :: rest = '<' :: behind := by
    cases nodes with
    | nil => exact ⟨rest, rfl⟩
    | cons node nodes =>
      cases node with
      | text raw => cases hhead
      | element name attributes children =>
        rw [renderNodes, render]
        exact ⟨_, rfl⟩
  obtain ⟨behind, hbehind⟩ := hbracket
  have hstep : step ⟨[], raw, none, root⟩ '<' = none := by
    have hflush : flush ⟨[], raw, none, root⟩ = none :=
      if_neg fun hempty => hne (List.isEmpty_iff.mp hempty)
    show (flush ⟨[], raw, none, root⟩).map _ = none
    rw [hflush]
    rfl
  rw [renderNodes, render, List.append_assoc, readFrom_data (not_lt_of_isCharData hraw), hbehind,
    readFrom_cons, List.nil_append, hstep]
  rfl

/-- A document that ends with well-formed nodes, a text first, is read when what stands before them
leaves one element open that has the name of the last tag. -/
theorem read_behind {head name' : Text} {nodes : List Node} {r : Node}
    (hname' : isName name' = true) (hname : isName name = true)
    (hnodes : wellFormedNodes nodes = true) (htext : nodes.head?.any Node.isText = true) :
    read (declaration ++ (head ++ endTag name' ++ (renderNodes nodes ++ endTag name))) = some r ↔
      (head ++ endTag name' ++ (renderNodes nodes ++ endTag name)).all isXmlChar = true ∧
      ∃ o before, readFrom start (head ++ endTag name') = some ⟨[o], [], none, before⟩ ∧
        o.name = name ∧ r = .element name o.attributes (o.before ++ nodes) := by
  rw [read_eq_some]
  refine and_congr_right fun _ => ?_
  -- inside an element the nodes are read into it, and the end tag closes that element or none
  have hinside : ∀ o stack before,
      readFrom ⟨o :: stack, [], none, before⟩ (renderNodes nodes ++ endTag name) =
      closeTag ⟨o.add nodes :: stack, [], some ('/' :: name), before⟩ name := by
    intro o stack before
    rw [endTag, readFrom_nodes _ hnodes o stack [] rfl, readFrom_close hname]
    exact Option.bind_fun_some _
  -- outside of the root there is no place for text
  have houtside : ∀ before,
      readFrom ⟨[], [], none, before⟩ (renderNodes nodes ++ endTag name) = none := by
    intro before
    rcases nodes with _ | ⟨_ | _, nodes⟩
    · cases htext
    · exact readFrom_outside hnodes _
    · cases htext
  constructor
  · intro h
    rw [readFrom_append] at h
    obtain ⟨s, hhead, hrest⟩ := Option.bind_eq_some_iff.mp h
    have hpending : s.data = [] ∧ s.tag = none := by
      rw [readFrom_append] at hhead
      obtain ⟨_, _, hlast⟩ := Option.bind_eq_some_iff.mp hhead
      exact pending_endTag hname' hlast
    rcases s with ⟨stack, data, tag, before⟩
    obtain ⟨rfl, rfl⟩ : data = [] ∧ tag = none := hpending
    cases stack with
    | nil =>
      rw [houtside] at hrest
      cases hrest
    | cons o stack =>
      rw [hinside] at hrest
      unfold closeTag at hrest
      dsimp only at hrest
      split at hrest
      · next heq =>
        cases stack with
        | nil =>
          have hroot := congrArg Reading.root (Option.some.inj hrest)
          exact ⟨o, before, hhead, heq, by rw [← heq]; exact (Option.some.inj hroot).symm⟩
        | cons parent stack => cases hrest
      · cases hrest
  · rintro ⟨o, before, hhead, rfl, rfl⟩
    rw [readFrom_append, hhead, Option.bind_some, hinside]
    exact if_pos rfl

/-! ## 7. Elements on lines of their own -/

/-- Elements on lines of their own, with the blanks before them and before the end of the element
that they are in. -/
def spaced (inner outer : Text) (nodes : List Node) : List Node :=
  nodes.flatMap (fun node => [.text ('\n' :: inner), node]) ++ [.text ('\n' :: outer)]

def isBlank (s : Text) : Bool := s.all (· == ' ')

/-- Each element ends its line. -/
theorem renderNodes_spaced (inner outer : Text) (nodes : List Node) :
    renderNodes (spaced inner outer nodes) =
      '\n' :: ((nodes.flatMap fun node => inner ++ (render node ++ ['\n'])) ++ outer) := by
  induction nodes with
  | nil => exact List.append_nil _
  | cons node nodes ih =>
    have hcons : spaced inner outer (node :: nodes) =
        .text ('\n' :: inner) :: node :: spaced inner outer nodes := rfl
    rw [hcons, renderNodes, renderNodes, ih, List.flatMap_cons, render]
    simp only [List.append_assoc, List.cons_append, List.nil_append]

theorem isCharData_blank {s : Text} (h : isBlank s = true) : isCharData ('\n' :: s) = true := by
  have hchars : ∀ c ∈ s, c = ' ' := fun c hc => beq_iff_eq.mp (List.all_eq_true.mp h c hc)
  have hdecode : decode s = some s := by
    clear h
    induction s with
    | nil => rfl
    | cons c cs ih =>
      rw [List.forall_mem_cons] at hchars
      rw [hchars.1, decode_other (by decide), ih hchars.2]
      rfl
  refine isCharData_of ?_ ?_ ?_
  · rw [List.mem_cons, not_or]
    exact ⟨by decide, fun hmem => absurd (hchars _ hmem) (by decide)⟩
  · rw [List.mem_cons, not_or]
    exact ⟨by decide, fun hmem => absurd (hchars _ hmem) (by decide)⟩
  · rw [decode_other (by decide), hdecode]
    rfl

theorem wellFormedNodes_spaced {inner outer : Text} {nodes : List Node}
    (hinner : isBlank inner = true) (houter : isBlank outer = true)
    (hnodes : ∀ node ∈ nodes, wellFormed node = true ∧ node.isText = false) :
    wellFormedNodes (spaced inner outer nodes) = true := by
  induction nodes with
  | nil =>
    show (wellFormed (.text ('\n' :: outer)) && _ && true) = true
    rw [wellFormed, isCharData_blank houter]
    rfl
  | cons node nodes ih =>
    rw [List.forall_mem_cons] at hnodes
    obtain ⟨⟨hnode, htext⟩, hrest⟩ := hnodes
    have hcons : spaced inner outer (node :: nodes) =
        .text ('\n' :: inner) :: node :: spaced inner outer nodes := rfl
    rw [hcons, wellFormedNodes, wellFormedNodes, wellFormed, isCharData_blank hinner, hnode, htext,
      ih hrest, List.head?_cons, Option.any_some, htext]
    rfl

/-- The line ends and blanks are no elements. -/
theorem elements_spaced {inner outer : Text} {nodes : List Node}
    (hnodes : ∀ node ∈ nodes, node.isText = false) :
    (spaced inner outer nodes).filter (fun child => !child.isText) = nodes := by
  induction nodes with
  | nil => rfl
  | cons node nodes ih =>
    rw [List.forall_mem_cons] at hnodes
    have hcons : spaced inner outer (node :: nodes) =
        .text ('\n' :: inner) :: node :: spaced inner outer nodes := rfl
    rw [hcons, List.filter_cons, List.filter_cons, hnodes.1, ih hnodes.2]
    rfl

end Xml
