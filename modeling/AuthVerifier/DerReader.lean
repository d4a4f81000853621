import AuthVerifier.Lib.TagLengthValue

/-!
The DER reader of the admin UI, `readTlv` and `children` of `utils/x509.ts`. A byte array is indexed
by any number: outside of it there is `undefined`. The bound of an element is checked against the
whole array.
-/

set_option autoImplicit false

namespace AuthVerifier
namespace X509
open TagLengthValue

/-- `start` and `stop` bound the content. -/
abbrev Tlv := Span

abbrev Throws := Except String

def bounded (bytes : List UInt8) (tag : UInt8) (start length : Nat) : Throws Tlv :=
  if start + length > bytes.length then .error "truncated certificate"
  else .ok ⟨tag, start, start + length⟩

def longLength (bytes : List UInt8) (start count : Nat) : Nat :=
  (List.range count).foldl (fun length i => length * 256 + (bytes[start + i]?.getD 0).toNat) 0

def readTlv (bytes : List UInt8) (offset : Nat) : Throws Tlv :=
  match bytes[offset]?, bytes[offset + 1]? with
  | some tag, some length =>
    if length &&& 0x80 ≠ 0 then
      let count := (length &&& 0x7f).toNat
      if count = 0 ∨ count > 4 then .error "unsupported certificate encoding"
      else bounded bytes tag (offset + 2 + count) (longLength bytes (offset + 2) count)
    else bounded bytes tag (offset + 2) length.toNat
  | _, _ => .error "truncated certificate"

/-- The loop of `children`, for at most `fuel` rounds: there is no result while it goes on. -/
def childrenFrom (bytes : List UInt8) (stop : Nat) : (fuel offset : Nat) → (result : List Tlv) →
    Option (Throws (List Tlv))
  | 0, _, _ => none
  | fuel + 1, offset, result =>
    if offset < stop then match readTlv bytes offset with
      | .error e => some (.error e)
      | .ok child => childrenFrom bytes stop fuel child.stop (result ++ [child])
    else some (.ok result)

theorem long_iff (octet : UInt8) : octet &&& 0x80 ≠ 0 ↔ 128 ≤ octet.toNat := by
  have hall : ∀ n : Fin 256, (UInt8.ofNat n &&& 0x80 ≠ 0) = (128 ≤ (UInt8.ofNat n).toNat) := by
    decide +kernel
  have hoctet := hall ⟨octet.toNat, octet.toNat_lt⟩
  rw [UInt8.ofNat_toNat] at hoctet
  exact Iff.of_eq hoctet

theorem count_eq (octet : UInt8) : (octet &&& 0x7f).toNat = octet.toNat % 128 := by
  have hall : ∀ n : Fin 256, (UInt8.ofNat n &&& 0x7f).toNat = (UInt8.ofNat n).toNat % 128 := by
    decide +kernel
  have hoctet := hall ⟨octet.toNat, octet.toNat_lt⟩
  rwa [UInt8.ofNat_toNat] at hoctet

theorem longLength_eq {bytes : List UInt8} {start : Nat} (count : Nat)
    (h : start + count ≤ bytes.length) :
    longLength bytes start count = bigEndian ((bytes.drop start).take count) := by
  induction count with
  | zero => rfl
  | succ count ih =>
    have hlt : start + count < bytes.length := by omega
    have hprevious : longLength bytes start count = bigEndian ((bytes.drop start).take count) :=
      ih (by omega)
    have hlast : (bytes.drop start)[count]? = some bytes[start + count] := by
      rw [List.getElem?_drop, List.getElem?_eq_getElem hlt]
    rw [List.take_add_one, hlast, bigEndian, List.foldl_append, ← bigEndian, ← hprevious, longLength,
      List.range_succ, List.foldl_append, ← longLength]
    simp [List.getElem?_eq_getElem hlt]

theorem drop_eq_cons_cons {bytes : List UInt8} {offset : Nat} {a b : UInt8}
    (ha : bytes[offset]? = some a) (hb : bytes[offset + 1]? = some b) :
    bytes.drop offset = a :: b :: bytes.drop (offset + 2) := by
  obtain ⟨hlt, rfl⟩ := List.getElem?_eq_some_iff.mp ha
  obtain ⟨hlt', rfl⟩ := List.getElem?_eq_some_iff.mp hb
  rw [List.drop_eq_getElem_cons hlt, List.drop_eq_getElem_cons hlt']

theorem bounded_ok_iff {bytes : List UInt8} {tag : UInt8} {start length : Nat} {t : Tlv} :
    bounded bytes tag start length = .ok t ↔
      start + length ≤ bytes.length ∧ t = ⟨tag, start, start + length⟩ := by
  unfold bounded
  split
  · rename_i hpast
    simp only [reduceCtorEq, false_iff, not_and]
    omega
  · rename_i hin
    simp only [Except.ok.injEq]
    exact ⟨fun h => ⟨by omega, h.symm⟩, fun h => h.2.symm⟩

theorem longForm {bytes : List UInt8} {offset : Nat} {tag length : UInt8}
    (hdrop : bytes.drop offset = tag :: length :: bytes.drop (offset + 2)) {count : Nat}
    (hcount : length.toNat = 128 + count) (hpos : 0 < count) (hfour : count ≤ 4)
    (hin : offset + 2 + count + longLength bytes (offset + 2) count ≤ bytes.length) :
    ∃ item : Item, ∃ rest, bytes.drop offset = item.bytes ++ rest ∧
      item.span offset =
        ⟨tag, offset + 2 + count, offset + 2 + count + longLength bytes (offset + 2) count⟩ := by
  have hlength := @longLength_eq bytes (offset + 2) count (by omega)
  set n := longLength bytes (offset + 2) count
  have hoctets : ((bytes.drop (offset + 2)).take count).length = count := by
    rw [List.length_take, List.length_drop]
    omega
  have hcontent : ((bytes.drop (offset + 2 + count)).take n).length = n := by
    rw [List.length_take, List.length_drop]
    omega
  refine ⟨⟨tag, length :: (bytes.drop (offset + 2)).take count,
    (bytes.drop (offset + 2 + count)).take n, ?_⟩, (bytes.drop (offset + 2 + count)).drop n, ?_, ?_⟩
  · rw [hcontent, hlength]
    exact .long length _ (by omega) (by omega) (by omega)
  · have hrest : bytes.drop (offset + 2) =
        (bytes.drop (offset + 2)).take count ++ bytes.drop (offset + 2 + count) :=
      (List.take_append_drop count _).symm.trans (by rw [List.drop_drop])
    simp only [Item.bytes, List.cons_append, List.append_assoc, List.take_append_drop, ← hrest]
    exact hdrop
  · simp only [Item.span, Item.bytes, List.length_cons, List.length_append, hoctets, hcontent,
      Span.mk.injEq, true_and]
    omega

theorem readTlv_of_drop {bytes octets content rest : List UInt8} {offset n : Nat} {tag : UInt8}
    (hform : IsLength octets n) (hn : content.length = n)
    (hdrop : bytes.drop offset = tag :: (octets ++ (content ++ rest))) :
    readTlv bytes offset = .ok ⟨tag, offset + 1 + octets.length, offset + 1 + octets.length + n⟩ := by
  have hlength := congrArg List.length hdrop
  simp only [List.length_drop, List.length_append, List.length_cons] at hlength
  have hget (i : Nat) : bytes[offset + i]? = (tag :: (octets ++ (content ++ rest)))[i]? := by
    rw [← hdrop, List.getElem?_drop]
  have htag : bytes[offset]? = some tag := hget 0
  cases hform with
  | short octet hshort =>
    have hoctet : bytes[offset + 1]? = some octet := hget 1
    have hlong : ¬ octet &&& 0x80 ≠ 0 := by
      rw [long_iff]
      omega
    unfold readTlv
    rw [htag, hoctet]
    dsimp only
    rw [if_neg hlong, bounded_ok_iff]
    simp only [List.length_cons, List.length_nil] at hlength ⊢
    exact ⟨by omega, trivial⟩
  | long count octets hcount hpos hfour =>
    have hoctet : bytes[offset + 1]? = some count := hget 1
    have hlong : count &&& 0x80 ≠ 0 := (long_iff count).mpr (by omega)
    have hbyte := count.toNat_lt
    have hmod : count.toNat % 128 = octets.length := by omega
    simp only [List.length_cons] at hlength
    have hoctets : (bytes.drop (offset + 2)).take octets.length = octets := by
      rw [← List.drop_drop, hdrop]
      simp
    unfold readTlv
    rw [htag, hoctet]
    dsimp only
    rw [if_pos hlong, count_eq, hmod, if_neg (by omega), bounded_ok_iff,
      longLength_eq _ (by omega), hoctets]
    simp only [List.length_cons, Span.mk.injEq, true_and]
    omega

theorem readTlv_ok_iff {bytes : List UInt8} {offset : Nat} {t : Tlv} :
    readTlv bytes offset = .ok t ↔
      ∃ item : Item, ∃ rest, bytes.drop offset = item.bytes ++ rest ∧ t = item.span offset := by
  constructor
  · intro h
    unfold readTlv at h
    split at h
    · rename_i tag length htag hlength
      have hdrop := drop_eq_cons_cons htag hlength
      split at h
      · rename_i hlong
        dsimp only at h
        rw [long_iff] at hlong
        rw [count_eq] at h
        have hbyte := length.toNat_lt
        split at h
        · cases h
        · rename_i hcount
          obtain ⟨hin, rfl⟩ := bounded_ok_iff.mp h
          obtain ⟨item, rest, hitem, hspan⟩ := longForm hdrop
            (by omega : length.toNat = 128 + length.toNat % 128) (by omega) (by omega) hin
          exact ⟨item, rest, hitem, hspan.symm⟩
      · rename_i hshort
        rw [long_iff] at hshort
        obtain ⟨hin, rfl⟩ := bounded_ok_iff.mp h
        have hcontent : ((bytes.drop (offset + 2)).take length.toNat).length = length.toNat := by
          rw [List.length_take, List.length_drop]
          omega
        refine ⟨⟨tag, [length], (bytes.drop (offset + 2)).take length.toNat, ?_⟩,
          (bytes.drop (offset + 2)).drop length.toNat, ?_, ?_⟩
        · rw [hcontent]
          exact .short length (by omega)
        · simp only [Item.bytes, List.cons_append, List.nil_append, List.take_append_drop]
          exact hdrop
        · simp only [Item.span, Item.bytes, List.length_cons, List.length_append, List.length_nil,
            hcontent, Span.mk.injEq, true_and]
          omega
    · cases h
  · rintro ⟨item, rest, hdrop, rfl⟩
    have hplain : bytes.drop offset = item.tag :: (item.length ++ (item.content ++ rest)) := by
      rw [hdrop]
      simp [Item.bytes]
    rw [readTlv_of_drop item.wellFormed rfl hplain]
    simp only [Item.span, Item.length_bytes, Except.ok.injEq, Span.mk.injEq, true_and]
    omega

theorem lt_stop_of_readTlv {bytes : List UInt8} {offset : Nat} {t : Tlv}
    (h : readTlv bytes offset = .ok t) : offset < t.stop := by
  obtain ⟨item, rest, -, rfl⟩ := readTlv_ok_iff.mp h
  have hpos := item.length_bytes_pos
  rw [item.span_stop]
  omega

theorem childrenFrom_isSome {bytes : List UInt8} {stop fuel offset : Nat} (result : List Tlv)
    (h : stop - offset < fuel) : (childrenFrom bytes stop fuel offset result).isSome := by
  induction fuel generalizing offset result with
  | zero => omega
  | succ fuel ih =>
    rw [childrenFrom]
    split
    · split
      · rfl
      · rename_i child hchild
        have hnext := lt_stop_of_readTlv hchild
        exact ih _ (by omega)
    · rfl

theorem childrenFrom_mono {bytes : List UInt8} {stop fuel fuel' offset : Nat} {result : List Tlv}
    {r : Throws (List Tlv)} (h : childrenFrom bytes stop fuel offset result = some r)
    (hle : fuel ≤ fuel') : childrenFrom bytes stop fuel' offset result = some r := by
  induction fuel generalizing fuel' offset result with
  | zero => cases h
  | succ fuel ih =>
    obtain ⟨n, rfl⟩ : ∃ n, fuel' = n + 1 := ⟨fuel' - 1, by omega⟩
    rw [childrenFrom] at h ⊢
    split at h
    · rename_i hlt
      rw [if_pos hlt]
      split at h
      · exact h
      · exact ih h (by omega)
    · rename_i hstop
      rw [if_neg hstop]
      exact h

/-- What `children` returns or throws: the loop needs no more rounds than the parent has bytes. -/
def children (bytes : List UInt8) (parent : Tlv) : Throws (List Tlv) :=
  (childrenFrom bytes parent.stop (parent.stop - parent.start + 1) parent.start []).get
    (childrenFrom_isSome [] (Nat.lt_succ_self _))

theorem childrenFrom_children {bytes : List UInt8} {parent : Tlv} {fuel : Nat}
    (h : parent.stop - parent.start + 1 ≤ fuel) :
    childrenFrom bytes parent.stop fuel parent.start [] = some (children bytes parent) :=
  childrenFrom_mono (Option.some_get _).symm h

theorem of_childrenFrom {bytes : List UInt8} {stop fuel offset : Nat} {result ts : List Tlv}
    (h : childrenFrom bytes stop fuel offset result = some (.ok ts)) :
    ∃ items rest, bytes.drop offset = concat items ++ rest ∧ Reaches offset stop items ∧
      ts = result ++ spans offset items := by
  induction fuel generalizing offset result with
  | zero => cases h
  | succ fuel ih =>
    rw [childrenFrom] at h
    split at h
    · rename_i hlt
      split at h
      · cases h
      · rename_i child hchild
        obtain ⟨item, rest, hdrop, rfl⟩ := readTlv_ok_iff.mp hchild
        obtain ⟨items, rest', hnext, hreach, rfl⟩ := ih h
        rw [item.span_stop] at hnext hreach
        have hrest : bytes.drop (offset + item.bytes.length) = rest := by
          rw [← List.drop_drop, hdrop, List.drop_left]
        refine ⟨item :: items, rest', ?_, ⟨hlt, hreach⟩, ?_⟩
        · rw [hdrop, ← hrest, hnext, concat_cons, List.append_assoc]
        · rw [List.append_assoc]
          rfl
    · rename_i hstop
      cases h
      exact ⟨[], bytes.drop offset, rfl, Nat.le_of_not_lt hstop, (List.append_nil _).symm⟩

theorem childrenFrom_items {bytes : List UInt8} {stop fuel offset : Nat} {items : List Item}
    {rest : List UInt8} (result : List Tlv) (hfuel : stop - offset < fuel)
    (hdrop : bytes.drop offset = concat items ++ rest) (hreach : Reaches offset stop items) :
    childrenFrom bytes stop fuel offset result = some (.ok (result ++ spans offset items)) := by
  induction items generalizing fuel offset result with
  | nil =>
    obtain ⟨n, rfl⟩ : ∃ n, fuel = n + 1 := ⟨fuel - 1, by omega⟩
    rw [childrenFrom, if_neg (Nat.not_lt.mpr hreach), spans, List.append_nil]
  | cons item items ih =>
    obtain ⟨n, rfl⟩ : ∃ n, fuel = n + 1 := ⟨fuel - 1, by omega⟩
    obtain ⟨hlt, hreach⟩ := hreach
    rw [concat_cons, List.append_assoc] at hdrop
    have hchild : readTlv bytes offset = .ok (item.span offset) :=
      readTlv_ok_iff.mpr ⟨item, _, hdrop, rfl⟩
    have hpos := item.length_bytes_pos
    have hnext : bytes.drop (offset + item.bytes.length) = concat items ++ rest := by
      rw [← List.drop_drop, hdrop, List.drop_left]
    rw [childrenFrom, if_pos hlt, hchild]
    dsimp only
    rw [item.span_stop, ih (result ++ [item.span offset]) (by omega) hnext hreach, List.append_assoc]
    rfl

theorem children_ok_iff {bytes : List UInt8} {parent : Tlv} {ts : List Tlv} :
    children bytes parent = .ok ts ↔ ∃ items rest, bytes.drop parent.start = concat items ++ rest ∧
      Reaches parent.start parent.stop items ∧ ts = spans parent.start items := by
  constructor
  · intro h
    have hrun := @childrenFrom_children bytes parent _ (Nat.le_refl _)
    rw [h] at hrun
    exact of_childrenFrom hrun
  · rintro ⟨items, rest, hdrop, hreach, rfl⟩
    have hrun := childrenFrom_items [] (Nat.lt_succ_self _) hdrop hreach
    rw [childrenFrom_children (Nat.le_refl _)] at hrun
    exact Option.some.inj hrun

def content (bytes : List UInt8) (parent : Tlv) : List UInt8 :=
  (bytes.take parent.stop).drop parent.start

structure Inside (bytes : List UInt8) (parent : Tlv) : Prop where
  start_le : parent.start ≤ parent.stop
  stop_le : parent.stop ≤ bytes.length

structure ReadsChildren (bytes : List UInt8) (parent : Tlv) : Prop where
  terminates : ∃ rounds, ∀ fuel ≥ rounds,
    childrenFrom bytes parent.stop fuel parent.start [] = some (children bytes parent)
  returns_iff : (∃ ts, children bytes parent = .ok ts) ↔ ∃ items, content bytes parent = concat items
  throws : (¬ ∃ items, content bytes parent = concat items) → ∃ e, children bytes parent = .error e
  /-- The children are what the content consists of, in order. -/
  partitions : ∀ ts, children bytes parent = .ok ts →
    ∃ items, content bytes parent = concat items ∧ ts = spans parent.start items
  inside : ∀ ts, children bytes parent = .ok ts → ∀ child ∈ ts,
    parent.start < child.start ∧ child.start ≤ child.stop ∧ child.stop ≤ parent.stop
  /-- The octets of every header, so also those of the length, are in the array. -/
  headers : ∀ ts, children bytes parent = .ok ts → ∀ child ∈ ts, child.start ≤ bytes.length

/-- Well-formed elements follow on one another from the start of the parent, and one of them begins
in the parent and ends behind it, but in the array. -/
def Overruns (bytes : List UInt8) (parent : Tlv) : Prop :=
  ∃ before last rest, bytes.drop parent.start = concat before ++ (Item.bytes last ++ rest) ∧
    parent.start + (concat before).length < parent.stop ∧
    parent.stop < parent.start + (concat before).length + last.bytes.length

variable {bytes : List UInt8} {parent : Tlv}

theorem content_eq : content bytes parent =
    (bytes.drop parent.start).take (parent.stop - parent.start) := by
  rw [content, List.drop_take]

theorem content_of_exact {items : List Item} {rest : List UInt8}
    (hdrop : bytes.drop parent.start = concat items ++ rest)
    (hexact : parent.start + (concat items).length = parent.stop) :
    content bytes parent = concat items := by
  have hlength : parent.stop - parent.start = (concat items).length := by omega
  rw [content_eq, hdrop, hlength, List.take_left]

theorem children_of_content (h : Inside bytes parent) {items : List Item}
    (hcontent : content bytes parent = concat items) :
    children bytes parent = .ok (spans parent.start items) := by
  obtain ⟨hle, hin⟩ := h
  have hlength := congrArg List.length hcontent
  rw [content_eq, List.length_take, List.length_drop] at hlength
  rw [content_eq] at hcontent
  refine children_ok_iff.mpr ⟨items, (bytes.drop parent.start).drop (parent.stop - parent.start), ?_,
    reaches_of_length (by omega), rfl⟩
  rw [← hcontent, List.take_append_drop]

theorem not_readsChildren_of_overruns (h : Overruns bytes parent) : ¬ ReadsChildren bytes parent := by
  intro hreads
  obtain ⟨before, last, rest, hdrop, hbefore, hpast⟩ := h
  have hlength : (concat (before ++ [last])).length = (concat before).length + last.bytes.length := by
    simp [concat_append]
  have hreturned : children bytes parent = .ok (spans parent.start (before ++ [last])) := by
    refine children_ok_iff.mpr ⟨before ++ [last], rest, ?_, reaches_snoc hbefore (by omega), rfl⟩
    rw [hdrop]
    simp [concat_append]
  have hlast : last.span (parent.start + (concat before).length) ∈
      spans parent.start (before ++ [last]) := by
    rw [spans_append]
    exact List.mem_append_right _ List.mem_cons_self
  have hstop := (hreads.inside _ hreturned _ hlast).2.2
  rw [last.span_stop] at hstop
  omega

theorem exact_of_children (hin : Inside bytes parent) (h : ¬ Overruns bytes parent) {ts : List Tlv}
    (hts : children bytes parent = .ok ts) :
    ∃ items, content bytes parent = concat items ∧
      parent.start + (concat items).length = parent.stop ∧ ts = spans parent.start items := by
  obtain ⟨items, rest, hdrop, hreach, rfl⟩ := children_ok_iff.mp hts
  rcases hreach.exact_or_past hin.start_le with hexact | ⟨before, last, rfl, hbefore, hpast⟩
  · exact ⟨items, content_of_exact hdrop hexact, hexact, rfl⟩
  · refine absurd ⟨before, last, rest, ?_, hbefore, ?_⟩ h
    · rw [hdrop]
      simp [concat_append]
    · simp only [concat_append, List.length_append, concat_cons, concat_nil, List.append_nil] at hpast
      omega

/-- `children` reads the content of its parent exactly if no element begins in it and ends behind
it. -/
theorem reads_children_iff (bytes : List UInt8) (parent : Tlv) (hin : Inside bytes parent) :
    ReadsChildren bytes parent ↔ ¬ Overruns bytes parent := by
  refine ⟨fun hreads h => not_readsChildren_of_overruns h hreads, fun h => ?_⟩
  have hinside : ∀ ts, children bytes parent = .ok ts → ∀ child ∈ ts,
      parent.start < child.start ∧ child.start ≤ child.stop ∧ child.stop ≤ parent.stop := by
    intro ts hts child hchild
    obtain ⟨items, -, hexact, rfl⟩ := exact_of_children hin h hts
    obtain ⟨hstart, hle, hstop⟩ := bounds_of_mem_spans hchild
    exact ⟨hstart, hle, hexact ▸ hstop⟩
  refine ⟨⟨_, fun fuel hfuel => childrenFrom_children hfuel⟩, ⟨?_, ?_⟩, ?_, ?_, hinside, ?_⟩
  · rintro ⟨ts, hts⟩
    obtain ⟨items, hcontent, -, -⟩ := exact_of_children hin h hts
    exact ⟨items, hcontent⟩
  · rintro ⟨items, hcontent⟩
    exact ⟨_, children_of_content hin hcontent⟩
  · intro hnone
    cases hresult : children bytes parent with
    | error e => exact ⟨e, rfl⟩
    | ok ts =>
      obtain ⟨items, hcontent, -, -⟩ := exact_of_children hin h hresult
      exact absurd ⟨items, hcontent⟩ hnone
  · intro ts hts
    obtain ⟨items, hcontent, -, hspans⟩ := exact_of_children hin h hts
    exact ⟨items, hcontent, hspans⟩
  · intro ts hts child hchild
    obtain ⟨-, hle, hstop⟩ := hinside ts hts child hchild
    exact Nat.le_trans hle (Nat.le_trans hstop hin.stop_le)

/-- A sequence with an integer in it. -/
theorem reads_children_iff_sequence : Inside [0x30, 3, 2, 1, 5] ⟨0x30, 2, 5⟩ ∧
    (ReadsChildren [0x30, 3, 2, 1, 5] ⟨0x30, 2, 5⟩ ↔ ¬ Overruns [0x30, 3, 2, 1, 5] ⟨0x30, 2, 5⟩) :=
  ⟨⟨by decide, by decide⟩, reads_children_iff _ _ ⟨by decide, by decide⟩⟩

/-- A sequence of two bytes whose first element has two bytes of content, which are those behind the
sequence. -/
theorem overrunning_child_returned :
    readTlv [0x30, 2, 2, 2, 1, 1] 0 = .ok ⟨0x30, 2, 4⟩ ∧ Inside [0x30, 2, 2, 2, 1, 1] ⟨0x30, 2, 4⟩ ∧
      children [0x30, 2, 2, 2, 1, 1] ⟨0x30, 2, 4⟩ = .ok [⟨2, 4, 6⟩] ∧
      ¬ ReadsChildren [0x30, 2, 2, 2, 1, 1] ⟨0x30, 2, 4⟩ := by
  have hreturned : children [0x30, 2, 2, 2, 1, 1] ⟨0x30, 2, 4⟩ = .ok [⟨2, 4, 6⟩] := by
    decide
  refine ⟨by decide, ⟨by decide, by decide⟩, hreturned, fun hreads => ?_⟩
  have hinside := (hreads.inside _ hreturned _ List.mem_cons_self).2.2
  exact absurd hinside (by decide)

end X509
end AuthVerifier
