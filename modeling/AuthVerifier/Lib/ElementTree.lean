import AuthVerifier.Lib.Markup

/-!
Elements of a document: their attributes, their children, what is below them in document order, and
their text.
-/

set_option autoImplicit false

namespace Markup

structure Element where
  name : List Char
  attributes : Attributes
  children : List Node

def Node.element? : Node → Option Element
  | .element name attributes children => some ⟨name, attributes, children⟩
  | .text _ => none

mutual

def Node.elements : Node → List Element
  | .text _ => []
  | .element name attributes children => ⟨name, attributes, children⟩ :: elementsOf children

def elementsOf : List Node → List Element
  | [] => []
  | node :: nodes => node.elements ++ elementsOf nodes

end

mutual

def Node.textContent : Node → List Char
  | .text cs => cs
  | .element _ _ children => textOf children

def textOf : List Node → List Char
  | [] => []
  | node :: nodes => node.textContent ++ textOf nodes

end

namespace Element
variable (e : Element)

def descendants : List Element := elementsOf e.children

def childElements : List Element := e.children.filterMap Node.element?

def textContent : List Char := textOf e.children

def localName : List Char := match e.name.dropWhile fun c => c != ':' with
  | [] => e.name
  | _ :: cs => cs

def getAttribute (name : List Char) : Option (List Char) := e.attributes.lookup name

def childrenNamed (name : List Char) : List Element :=
  e.childElements.filter fun child => child.localName == name

def descendantsNamed (name : List Char) : List Element :=
  e.descendants.filter fun d => d.localName == name

end Element

theorem textContent_text (name : List Char) (attributes : Attributes) (cs : List Char) :
    Element.textContent ⟨name, attributes, [.text cs]⟩ = cs := by
  rw [Element.textContent, textOf, textOf, Node.textContent, List.append_nil]

theorem elements_element (e : Element) :
    (Node.element e.name e.attributes e.children).elements = e :: e.descendants := by
  rw [Node.elements, Element.descendants]

theorem of_element? {node : Node} {e : Element} (h : node.element? = some e) :
    node = .element e.name e.attributes e.children := by
  cases node with
  | text cs => cases h
  | element name attributes children =>
    cases h
    rfl

theorem elements_of_element? {node : Node} {e : Element} (h : node.element? = some e) :
    node.elements = e :: e.descendants := by
  rw [of_element? h, elements_element]

theorem elementsOf_eq (nodes : List Node) : elementsOf nodes =
    (nodes.filterMap Node.element?).flatMap fun e => e :: e.descendants := by
  induction nodes with
  | nil => rw [elementsOf, List.filterMap_nil, List.flatMap_nil]
  | cons node nodes ih =>
    rw [elementsOf, ih]
    cases h : node.element? with
    | none =>
      cases node with
      | text cs => rw [Node.elements, List.nil_append, List.filterMap_cons_none h]
      | element name attributes children => cases h
    | some e => rw [List.filterMap_cons_some h, List.flatMap_cons, elements_of_element? h]

theorem Element.descendants_eq (e : Element) :
    e.descendants = e.childElements.flatMap fun child => child :: child.descendants :=
  elementsOf_eq e.children

theorem sublist_flatMap {α β : Type} {f g : α → List β} {l l' : List α} (h : l.Sublist l')
    (hfg : ∀ a ∈ l, (f a).Sublist (g a)) : (l.flatMap f).Sublist (l'.flatMap g) := by
  induction h with
  | slnil => exact List.Sublist.slnil
  | cons a _ ih =>
    rw [List.flatMap_cons]
    exact (ih hfg).trans (List.sublist_append_right _ _)
  | cons_cons a _ ih =>
    rw [List.flatMap_cons, List.flatMap_cons]
    exact (hfg a List.mem_cons_self).append (ih fun b hb => hfg b (List.mem_cons_of_mem a hb))

theorem Element.flatMap_childElements_sublist {f : Element → List Element} {p : Element → Bool}
    (e : Element) (hf : ∀ child, (f child).Sublist child.descendants) :
    ((e.childElements.filter p).flatMap f).Sublist e.descendants := by
  rw [e.descendants_eq]
  exact sublist_flatMap List.filter_sublist fun child _ => (hf child).cons child

theorem Element.childElements_sublist (e : Element) (p : Element → Bool) :
    (e.childElements.filter p).Sublist e.descendants := by
  have hself (l : List Element) : l.flatMap (fun child => [child]) = l := List.flatMap_singleton' l
  rw [← hself (e.childElements.filter p), e.descendants_eq]
  exact sublist_flatMap List.filter_sublist fun child _ =>
    List.cons_sublist_cons.mpr (List.nil_sublist _)

end Markup
