import Mathlib.Data.List.Basic
import Mathlib.Algebra.GroupWithZero.Nat

/-!
Tag, length and content as bytes. A tag is one octet; a length is one octet below 128, or the number
of octets that follow, at most four, and then these, the most significant first.
-/

set_option autoImplicit false

namespace TagLengthValue

def bigEndian (octets : List UInt8) : Nat := octets.foldl (fun n b => n * 256 + b.toNat) 0

inductive IsLength : List UInt8 → Nat → Prop
  | short (octet : UInt8) : octet.toNat < 128 → IsLength [octet] octet.toNat
  | long (count : UInt8) (octets : List UInt8) : count.toNat = 128 + octets.length →
      0 < octets.length → octets.length ≤ 4 → IsLength (count :: octets) (bigEndian octets)

/-- What is written is well formed: the length is that of the content. -/
structure Item where
  tag : UInt8
  length : List UInt8
  content : List UInt8
  wellFormed : IsLength length content.length

def Item.bytes (item : Item) : List UInt8 := item.tag :: (item.length ++ item.content)

def concat (items : List Item) : List UInt8 := items.flatMap Item.bytes

/-- Where an item stands in an array: its tag, and the bounds of its content. -/
structure Span where
  tag : UInt8
  start : Nat
  stop : Nat
  deriving DecidableEq

def Item.span (item : Item) (offset : Nat) : Span :=
  ⟨item.tag, offset + 1 + item.length.length, offset + item.bytes.length⟩

def spans : (offset : Nat) → List Item → List Span
  | _, [] => []
  | offset, item :: items => item.span offset :: spans (offset + item.bytes.length) items

/-- Items are taken as long as the offset is before `stop`; the last one may reach past it. -/
def Reaches : (offset stop : Nat) → List Item → Prop
  | offset, stop, [] => stop ≤ offset
  | offset, stop, item :: items => offset < stop ∧ Reaches (offset + item.bytes.length) stop items

theorem IsLength.length_le {octets : List UInt8} {n : Nat} (h : IsLength octets n) :
    1 ≤ octets.length ∧ octets.length ≤ 5 := by
  cases h with
  | short => simp
  | long count octets _ _ hfour =>
    rw [List.length_cons]
    omega

namespace Item
variable (item : Item)

@[simp] theorem length_bytes :
    item.bytes.length = 1 + item.length.length + item.content.length := by
  simp [bytes]
  omega

theorem length_bytes_pos : 0 < item.bytes.length := by simp [bytes]

theorem span_start_le_stop (offset : Nat) : (item.span offset).start ≤ (item.span offset).stop := by
  simp [span]
  omega

theorem lt_span_start (offset : Nat) : offset < (item.span offset).start := by
  simp [span]
  omega

theorem span_stop (offset : Nat) : (item.span offset).stop = offset + item.bytes.length := rfl

end Item

@[simp] theorem concat_nil : concat [] = [] := rfl

@[simp] theorem concat_cons (item : Item) (items : List Item) :
    concat (item :: items) = item.bytes ++ concat items := rfl

theorem concat_append (items items' : List Item) :
    concat (items ++ items') = concat items ++ concat items' := by
  simp [concat]

theorem spans_append (offset : Nat) (items items' : List Item) :
    spans offset (items ++ items') =
      spans offset items ++ spans (offset + (concat items).length) items' := by
  induction items generalizing offset with
  | nil => rfl
  | cons item items ih =>
    rw [List.cons_append, spans, ih, spans, concat_cons, List.length_append, Nat.add_assoc]
    rfl

theorem bounds_of_mem_spans {items : List Item} {offset : Nat} {span : Span}
    (h : span ∈ spans offset items) :
    offset < span.start ∧ span.start ≤ span.stop ∧ span.stop ≤ offset + (concat items).length := by
  induction items generalizing offset with
  | nil => cases h
  | cons item items ih =>
    rw [concat_cons, List.length_append]
    rcases List.mem_cons.mp h with rfl | h
    · refine ⟨item.lt_span_start offset, item.span_start_le_stop offset, ?_⟩
      rw [item.span_stop]
      omega
    · obtain ⟨hstart, hle, hstop⟩ := ih h
      have hpos := item.length_bytes_pos
      exact ⟨by omega, hle, by omega⟩

theorem reaches_of_length {items : List Item} {offset stop : Nat}
    (h : offset + (concat items).length = stop) : Reaches offset stop items := by
  induction items generalizing offset with
  | nil => exact Nat.le_of_eq h.symm
  | cons item items ih =>
    rw [concat_cons, List.length_append] at h
    have hpos := item.length_bytes_pos
    exact ⟨by omega, ih (by omega)⟩

theorem Reaches.exact_or_past {items : List Item} {offset stop : Nat} (h : Reaches offset stop items)
    (hle : offset ≤ stop) : offset + (concat items).length = stop ∨
      ∃ before last, items = before ++ [last] ∧ offset + (concat before).length < stop ∧
        stop < offset + (concat items).length := by
  induction items generalizing offset with
  | nil =>
    left
    exact Nat.le_antisymm hle h
  | cons item items ih =>
    obtain ⟨hlt, hrest⟩ := h
    rw [concat_cons, List.length_append]
    by_cases hitem : offset + item.bytes.length ≤ stop
    · rcases ih hrest hitem with hexact | ⟨before, last, rfl, hbefore, hpast⟩
      · left
        omega
      · right
        refine ⟨item :: before, last, rfl, ?_, by omega⟩
        rw [concat_cons, List.length_append]
        omega
    · -- the first item is past the end, so it is the only one
      right
      cases items with
      | nil =>
        have hlast : stop < offset + (item.bytes.length + (concat []).length) := by
          rw [concat_nil, List.length_nil]
          omega
        exact ⟨[], item, rfl, by simpa using hlt, hlast⟩
      | cons next items => exact absurd hrest.1 (by omega)

theorem reaches_snoc {before : List Item} {last : Item} {offset stop : Nat}
    (hbefore : offset + (concat before).length < stop)
    (hpast : stop ≤ offset + (concat (before ++ [last])).length) :
    Reaches offset stop (before ++ [last]) := by
  induction before generalizing offset with
  | nil =>
    refine ⟨by simpa using hbefore, ?_⟩
    simpa [concat, Reaches] using hpast
  | cons item before ih =>
    rw [concat_cons, List.length_append] at hbefore
    rw [List.cons_append, concat_cons, List.length_append] at hpast
    exact ⟨by omega, ih (by omega) (by omega)⟩

end TagLengthValue
