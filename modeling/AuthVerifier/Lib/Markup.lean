import Mathlib.Data.List.Basic

/-!
Reading markup. The reader takes one character after another and refuses what it does not know, such
as comments, sections and attributes without quotes; what it accepts is read in this way by the
parsers for XML and for HTML, white space between elements aside.
-/

set_option autoImplicit false

namespace Markup

/-- The characters that have a meaning in markup, and the names of their references. -/
def references : List (Char × List Char) :=
  [('&', "amp".toList), ('<', "lt".toList), ('>', "gt".toList), ('"', "quot".toList),
    ('\'', "#39".toList)]

def reference (name : List Char) : List Char := '&' :: (name ++ [';'])

def escapeChar (c : Char) : List Char :=
  match references.lookup c with
  | some name => reference name
  | none => [c]

def escape (cs : List Char) : List Char := cs.flatMap escapeChar

def readReference (name : List Char) : Option Char :=
  (references.find? fun e => e.2 == name).map Prod.fst

def unescape : List Char → List Char
  | '&' :: 'a' :: 'm' :: 'p' :: ';' :: cs => '&' :: unescape cs
  | '&' :: 'l' :: 't' :: ';' :: cs => '<' :: unescape cs
  | '&' :: 'g' :: 't' :: ';' :: cs => '>' :: unescape cs
  | '&' :: 'q' :: 'u' :: 'o' :: 't' :: ';' :: cs => '"' :: unescape cs
  | '&' :: '#' :: '3' :: '9' :: ';' :: cs => '\'' :: unescape cs
  | c :: cs => c :: unescape cs
  | [] => []

def isPrintable (c : Char) : Bool := 0x20 ≤ c.toNat && c.toNat < 0x7f

structure Dialect where
  /-- What a document may consist of. Carriage returns are not among it: they are replaced before
  the document is read. -/
  legal : Char → Bool
  /-- How a character is taken that stands in the value of an attribute. -/
  attributeChar : Char → Char
  /-- What may stand between angle brackets and is no tag. -/
  declaration : List Char
  /-- Elements without content or end tag. -/
  void : List Char → Bool
  /-- Whether a slash at the end of a start tag ends the element. -/
  selfClosing : Bool
  printable : ∀ c, isPrintable c = true → legal c = true

def isNameStart (c : Char) : Bool := c.isAlpha || c == '_'

def isNameChar (c : Char) : Bool := c.isAlphanum || ['_', ':', '-', '.'].contains c

def isSpace (c : Char) : Bool := c == ' ' || c == '\t' || c == '\n'

inductive Event where
  | declaration
  | startTag (name : List Char)
  | attribute (name value : List Char)
  | endOfTag (selfClosed : Bool)
  | endTag (name : List Char)
  | text (cs : List Char)
  deriving DecidableEq

inductive Place where
  | content (text : List Char)
  | value (name value : List Char)
  deriving DecidableEq

def Place.append : Place → List Char → Place
  | .content text, cs => .content (text ++ cs)
  | .value name v, cs => .value name (v ++ cs)

inductive State where
  | data (place : Place)
  | reference (place : Place) (name : List Char)
  | tagOpen
  | declaration (text : List Char)
  | endName (name : List Char)
  | startName (name : List Char)
  | inTag
  | attributeName (name : List Char)
  | equals (name : List Char)
  | afterValue
  | slash
  deriving DecidableEq

def textEvents (text : List Char) : List Event := if text.isEmpty then [] else [.text text]

variable (D : Dialect)

def dataStep (place : Place) (c : Char) : Option (List Event × State) :=
  if c = '&' then some ([], .reference place [])
  else match place with
    | .content text =>
      if c = '<' then some (textEvents text, .tagOpen)
      else if c = '>' then none
      else some ([], .data (.content (text ++ [c])))
    | .value name value =>
      if c = '<' then none
      else if c = '"' then some ([.attribute name value], .afterValue)
      else some ([], .data (.value name (value ++ [D.attributeChar c])))

def tagEnd (c : Char) (before : List Event) : Option (List Event × State) :=
  if isSpace c then some (before, .inTag)
  else if c = '/' then some (before, .slash)
  else if c = '>' then some (before ++ [.endOfTag false], .data (.content []))
  else none

def stateStep (c : Char) : State → Option (List Event × State)
  | .data place => dataStep D place c
  | .reference place name =>
    if c = ';' then (readReference name).map fun d => ([], .data (place.append [d]))
    else some ([], .reference place (name ++ [c]))
  | .tagOpen =>
    if c = '/' then some ([], .endName [])
    else if c = '!' ∨ c = '?' then some ([], .declaration [c])
    else if isNameStart c then some ([], .startName [c])
    else none
  | .declaration text =>
    if c = '>' then
      if text = D.declaration then some ([.declaration], .data (.content [])) else none
    else some ([], .declaration (text ++ [c]))
  | .endName name =>
    if isNameChar c then some ([], .endName (name ++ [c]))
    else if c = '>' then some ([.endTag name], .data (.content []))
    else none
  | .startName name =>
    if isNameChar c then some ([], .startName (name ++ [c]))
    else tagEnd c [.startTag name]
  | .inTag => if isNameStart c then some ([], .attributeName [c]) else tagEnd c []
  | .attributeName name =>
    if isNameChar c then some ([], .attributeName (name ++ [c]))
    else if c = '=' then some ([], .equals name)
    else none
  | .equals name => if c = '"' then some ([], .data (.value name [])) else none
  | .afterValue => tagEnd c []
  | .slash => if c = '>' then some ([.endOfTag true], .data (.content [])) else none

def step (s : State) (c : Char) : Option (List Event × State) :=
  if D.legal c then stateStep D c s else none

def run : State → List Char → Option (List Event × State)
  | s, [] => some ([], s)
  | s, c :: cs => match step D s c with
    | none => none
    | some (events, next) => (run next cs).map fun r => (events ++ r.1, r.2)

abbrev Attributes := List (List Char × List Char)

inductive Node where
  | element (name : List Char) (attributes : Attributes) (children : List Node)
  | text (cs : List Char)

/-- The elements that are open, the innermost first, each with its children so far, and a start tag
that is being read. -/
structure Builder where
  stack : List (List Char × Attributes × List Node) := []
  roots : List Node := []
  tag : Option (List Char × Attributes) := none

def Builder.add (b : Builder) (node : Node) : Builder :=
  match b.stack with
  | [] => { b with roots := b.roots ++ [node] }
  | (name, attributes, children) :: rest =>
    { b with stack := (name, attributes, children ++ [node]) :: rest }

def Builder.step (b : Builder) : Event → Option Builder
  | .declaration => if b.stack.isEmpty && b.roots.isEmpty then some b else none
  | .text cs => some (b.add (.text cs))
  | .startTag name => some { b with tag := some (name, []) }
  | .attribute name value => match b.tag with
    | none => none
    | some (element, attributes) =>
      if (attributes.map Prod.fst).contains name then none
      else some { b with tag := some (element, attributes ++ [(name, value)]) }
  | .endOfTag selfClosed => match b.tag with
    | none => none
    | some (name, attributes) =>
      if D.void name || (selfClosed && D.selfClosing) then
        some (Builder.add { b with tag := none } (.element name attributes []))
      else if selfClosed then none
      else some { b with stack := (name, attributes, []) :: b.stack, tag := none }
  | .endTag name => match b.stack with
    | [] => none
    | (element, attributes, children) :: rest =>
      if element = name then
        some (Builder.add { b with stack := rest } (.element element attributes children))
      else none

def Node.isBlank : Node → Bool
  | .text cs => cs.all isSpace
  | .element .. => false

def Builder.root (b : Builder) : Option Node :=
  match b.stack, b.roots.filter fun node => !node.isBlank with
  | [], [.element name attributes children] => some (.element name attributes children)
  | _, _ => none

def build (events : List Event) : Option Node :=
  (events.foldlM (Builder.step D) {}).bind Builder.root

def parse (text : List Char) : Option Node :=
  match run D (.data (.content [])) text with
  | some (events, .data (.content text)) => build D (events ++ textEvents text)
  | _ => none

/-- The characters of XML 1.0: no surrogate, neither U+FFFE nor U+FFFF, and of the characters below
the space only these two. -/
def isXmlChar (c : Char) : Bool :=
  let n := c.toNat
  n == 9 || n == 10 || (0x20 ≤ n && n ≤ 0xD7FF) || (0xE000 ≤ n && n ≤ 0xFFFD) || 0x10000 ≤ n

def xml : Dialect where
  legal := isXmlChar
  attributeChar c := if c = '\t' ∨ c = '\n' then ' ' else c
  declaration := "?xml version=\"1.0\" encoding=\"UTF-8\"?".toList
  void _ := false
  selfClosing := true
  printable c h := by
    simp only [isPrintable, Bool.and_eq_true, decide_eq_true_eq] at h
    simp only [isXmlChar, Bool.or_eq_true, Bool.and_eq_true, decide_eq_true_eq]
    omega

def html : Dialect where
  legal c := c != '\r' && c.toNat != 0
  attributeChar c := c
  declaration := "!DOCTYPE html".toList
  void name := (["area", "base", "br", "col", "embed", "hr", "img", "input", "link", "meta", "source",
    "track", "wbr"].map String.toList).contains name
  selfClosing := false
  printable c h := by
    simp only [isPrintable, Bool.and_eq_true, decide_eq_true_eq] at h
    have hreturn : c ≠ '\r' := by
      rintro rfl
      revert h
      decide
    have hnul : c.toNat ≠ 0 := by omega
    simp [hreturn, hnul]

theorem escapeChar_cases (c : Char) :
    (∃ name, (c, name) ∈ references ∧ escapeChar c = reference name) ∨
      (c ∉ references.map Prod.fst ∧ escapeChar c = [c]) := by
  unfold escapeChar
  cases h : references.lookup c with
  | some name =>
    left
    obtain ⟨before, after, hlist, -⟩ := List.lookup_eq_some_iff.mp h
    exact ⟨name, hlist ▸ by simp, rfl⟩
  | none =>
    right
    refine ⟨fun hmem => ?_, rfl⟩
    obtain ⟨e, he, rfl⟩ := List.mem_map.mp hmem
    have hne := List.lookup_eq_none_iff.mp h e he
    simp at hne

theorem ne_of_plain {c d : Char} (hplain : c ∉ references.map Prod.fst)
    (hd : d ∈ references.map Prod.fst) : c ≠ d :=
  fun he => hplain (he ▸ hd)

theorem readReference_of_mem {e : Char × List Char} (h : e ∈ references) :
    readReference e.2 = some e.1 := by
  have hall : ∀ e ∈ references, readReference e.2 = some e.1 := by decide
  exact hall e h

theorem printable_of_mem {e : Char × List Char} (h : e ∈ references) {c : Char} (hc : c ∈ e.2) :
    isPrintable c = true ∧ c ≠ ';' := by
  have hall : references.all (fun e => e.2.all fun c => isPrintable c && c != ';') = true := by
    decide
  simpa using List.all_eq_true.mp (List.all_eq_true.mp hall e h) c hc

def isDelimiter (c : Char) : Bool := ['<', '>', '"', '\''].contains c

theorem isDelimiter_of_mem_escape {cs : List Char} {c : Char} (h : c ∈ escape cs) :
    isDelimiter c = false := by
  have hall : references.all (fun e => (reference e.2).all fun c => !isDelimiter c) = true := by
    decide
  obtain ⟨d, -, hc⟩ := List.mem_flatMap.mp h
  rcases escapeChar_cases d with ⟨name, hname, hescape⟩ | ⟨hplain, hescape⟩
  · rw [hescape] at hc
    simpa using List.all_eq_true.mp (List.all_eq_true.mp hall _ hname) c hc
  · rw [hescape, List.mem_singleton] at hc
    have hspecial : ['<', '>', '"', '\''].all (references.map Prod.fst).contains = true := by decide
    rw [hc, isDelimiter, Bool.eq_false_iff, ne_eq, List.contains_iff_mem]
    exact fun hmem => hplain (List.contains_iff_mem.mp (List.all_eq_true.mp hspecial d hmem))

theorem reference_of_ampersand {cs before after : List Char}
    (h : escape cs = before ++ '&' :: after) :
    ∃ e ∈ references, reference e.2 <+: '&' :: after := by
  induction cs generalizing before with
  | nil => simp [escape] at h
  | cons d cs ih =>
    rw [escape, List.flatMap_cons, ← escape] at h
    rcases List.append_eq_append_iff.mp h with ⟨as, -, hrest⟩ | ⟨as, hchar, hrest⟩
    · exact ih hrest
    · cases as with
      | nil => exact ih (List.nil_append _ ▸ hrest.symm : escape cs = [] ++ '&' :: after)
      | cons a as =>
        obtain ⟨rfl, -⟩ := List.cons.inj hrest
        rcases escapeChar_cases d with ⟨name, hname, hescape⟩ | ⟨hplain, hescape⟩
        · -- the ampersand of a reference is its first character
          rw [hescape] at hchar
          cases before with
          | nil => exact ⟨_, hname, ⟨escape cs, by rw [hchar, hrest, List.nil_append]⟩⟩
          | cons b before =>
            have htail : '&' ∈ name ++ [';'] := by
              rw [(List.cons.inj hchar).2]
              simp
            have hall : ∀ e ∈ references, '&' ∉ e.2 ++ [';'] := by decide
            exact absurd htail (hall _ hname)
        · have hd : '&' ∈ [d] := by
            rw [← hescape, hchar]
            simp
          rw [List.mem_singleton] at hd
          exact absurd (hd ▸ (by decide : '&' ∈ references.map Prod.fst)) hplain

theorem unescape_cons {c : Char} (h : c ≠ '&') (cs : List Char) :
    unescape (c :: cs) = c :: unescape cs := by
  conv_lhs => unfold unescape
  split <;> simp_all

theorem unescape_escape (cs : List Char) : unescape (escape cs) = cs := by
  induction cs with
  | nil => rfl
  | cons c cs ih =>
    rw [escape, List.flatMap_cons, ← escape]
    rcases escapeChar_cases c with ⟨name, hname, hescape⟩ | ⟨hplain, hescape⟩
    · rw [hescape]
      simp only [references, List.mem_cons, Prod.mk.injEq, List.not_mem_nil, or_false] at hname
      rcases hname with ⟨rfl, rfl⟩ | ⟨rfl, rfl⟩ | ⟨rfl, rfl⟩ | ⟨rfl, rfl⟩ | ⟨rfl, rfl⟩ <;>
        exact congrArg (_ :: ·) ih
    · have hc : c ≠ '&' := ne_of_plain hplain (by decide)
      rw [hescape, List.singleton_append, unescape_cons hc, ih]

section
variable {D : Dialect}

theorem run_append {s next last : State} {cs ds : List Char} {events events' : List Event}
    (h : run D s cs = some (events, next)) (h' : run D next ds = some (events', last)) :
    run D s (cs ++ ds) = some (events ++ events', last) := by
  induction cs generalizing s events with
  | nil =>
    cases h
    exact h'
  | cons c cs ih =>
    rw [run] at h
    rw [List.cons_append, run]
    cases hstep : step D s c with
    | none => simp [hstep] at h
    | some r =>
      obtain ⟨first, middle⟩ := r
      simp only [hstep, Option.map_eq_some_iff] at h ⊢
      obtain ⟨⟨rest, p⟩, hrun, heq⟩ := h
      cases heq
      exact ⟨_, ih hrun, by rw [List.append_assoc]⟩

theorem run_eq_none_of_illegal {c : Char} (hc : D.legal c = false) (s : State) {cs : List Char}
    (h : c ∈ cs) : run D s cs = none := by
  induction cs generalizing s with
  | nil => cases h
  | cons d cs ih =>
    rw [run]
    rcases List.mem_cons.mp h with rfl | h
    · rw [step, if_neg (by simp [hc])]
    · cases step D s d with
      | none => rfl
      | some r =>
        dsimp only
        rw [ih r.2 h]
        rfl

theorem run_cons {s next last : State} {c : Char} {cs : List Char} {events events' : List Event}
    (hstep : step D s c = some (events, next)) (h : run D next cs = some (events', last)) :
    run D s (c :: cs) = some (events ++ events', last) := by
  rw [run, hstep]
  dsimp only
  rw [h]
  rfl

theorem run_referenceName {place : Place} {before name : List Char}
    (h : ∀ c ∈ name, isPrintable c = true ∧ c ≠ ';') :
    run D (.reference place before) name = some ([], .reference place (before ++ name)) := by
  induction name generalizing before with
  | nil => simp [run]
  | cons c name ih =>
    obtain ⟨hprintable, hc⟩ := h c List.mem_cons_self
    have hstep : step D (.reference place before) c =
        some ([], .reference place (before ++ [c])) := by
      simp [step, stateStep, D.printable c hprintable, hc]
    have hname := @ih (before ++ [c]) fun d hd => h d (List.mem_cons_of_mem c hd)
    rw [List.append_assoc] at hname
    exact run_cons hstep hname

theorem run_reference (place : Place) {e : Char × List Char} (he : e ∈ references) :
    run D (.data place) (reference e.2) = some ([], .data (place.append [e.1])) := by
  have hamp : D.legal '&' = true := D.printable '&' (by decide)
  have hsemicolon : D.legal ';' = true := D.printable ';' (by decide)
  have hstart : step D (.data place) '&' = some ([], .reference place []) := by
    rw [step, if_pos hamp]
    rfl
  have hstop : step D (.reference place e.2) ';' = some ([], .data (place.append [e.1])) := by
    rw [step, if_pos hsemicolon, stateStep, if_pos rfl, readReference_of_mem he]
    rfl
  have hend : run D (.reference place e.2) [';'] = some ([], .data (place.append [e.1])) :=
    run_cons hstop rfl
  exact run_cons hstart (run_append (run_referenceName fun c hc => printable_of_mem he hc) hend)

def Dialect.Keeps (D : Dialect) (c : Char) : Prop := D.legal c = true ∧ D.attributeChar c = c

theorem step_plain (place : Place) {c : Char} (hc : D.Keeps c)
    (hplain : c ∉ references.map Prod.fst) :
    step D (.data place) c = some ([], .data (place.append [c])) := by
  have hamp : c ≠ '&' := ne_of_plain hplain (by decide)
  have hlt : c ≠ '<' := ne_of_plain hplain (by decide)
  have hgt : c ≠ '>' := ne_of_plain hplain (by decide)
  have hquot : c ≠ '"' := ne_of_plain hplain (by decide)
  rw [step, if_pos hc.1, stateStep]
  cases place with
  | content text => simp [dataStep, hamp, hlt, hgt, Place.append]
  | value name v => simp [dataStep, hamp, hlt, hquot, hc.2, Place.append]

theorem Place.append_append (place : Place) (cs ds : List Char) :
    (place.append cs).append ds = place.append (cs ++ ds) := by
  cases place <;> simp [Place.append]

@[simp] theorem Place.append_nil (place : Place) : place.append [] = place := by
  cases place <;> simp [Place.append]

theorem run_escape (place : Place) {cs : List Char} (h : ∀ c ∈ cs, D.Keeps c) :
    run D (.data place) (escape cs) = some ([], .data (place.append cs)) := by
  induction cs generalizing place with
  | nil => simp [escape, run]
  | cons c cs ih =>
    have hchar : run D (.data place) (escapeChar c) = some ([], .data (place.append [c])) := by
      rcases escapeChar_cases c with ⟨name, hname, hescape⟩ | ⟨hplain, hescape⟩
      · rw [hescape]
        exact run_reference place hname
      · rw [hescape]
        exact run_cons (step_plain place (h c List.mem_cons_self) hplain) rfl
    have hrest := ih (place.append [c]) fun d hd => h d (List.mem_cons_of_mem c hd)
    rw [Place.append_append] at hrest
    exact run_append hchar hrest

theorem run_tag {text cs : List Char} {events : List Event} {last : State}
    (h : cs.head? = some '<' ∧ run D (.data (.content [])) cs = some (events, last)) :
    run D (.data (.content text)) cs = some (textEvents text ++ events, last) := by
  obtain ⟨htag, h⟩ := h
  cases cs with
  | nil => cases htag
  | cons c cs =>
    cases htag
    by_cases hlegal : D.legal '<' = true
    · have hstep (text : List Char) :
          step D (.data (.content text)) '<' = some (textEvents text, .tagOpen) := by
        rw [step, if_pos hlegal]
        rfl
      rw [run, hstep] at h ⊢
      obtain ⟨r, hrun, heq⟩ := Option.map_eq_some_iff.mp h
      cases heq
      exact Option.map_eq_some_iff.mpr ⟨r, hrun, rfl⟩
    · rw [run, step, if_neg hlegal] at h
      cases h

theorem run_quote {name v cs : List Char} {events : List Event} {last : State}
    (h : cs.head? = some '"' ∧
      run D (.data (.value [] [])) cs = some (.attribute [] [] :: events, last)) :
    run D (.data (.value name v)) cs = some (.attribute name v :: events, last) := by
  obtain ⟨hquote, h⟩ := h
  cases cs with
  | nil => cases hquote
  | cons c cs =>
    cases hquote
    by_cases hlegal : D.legal '"' = true
    · have hstep (name v : List Char) :
          step D (.data (.value name v)) '"' = some ([.attribute name v], .afterValue) := by
        rw [step, if_pos hlegal]
        rfl
      rw [run, hstep] at h ⊢
      obtain ⟨r, hrun, heq⟩ := Option.map_eq_some_iff.mp h
      cases heq
      exact Option.map_eq_some_iff.mpr ⟨r, hrun, rfl⟩
    · rw [run, step, if_neg hlegal] at h
      cases h

end

end Markup
