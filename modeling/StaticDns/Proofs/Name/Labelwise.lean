import StaticDns.Proofs.Name.Tiling

/-!
# StaticDns.Proofs.Name.Labelwise — comparing flat names compares labels

Records are matched on flat octet strings: the whole name is folded, length octets included, and a
reversed address is looked for as a raw prefix.  Both tests mean what they should.  A length octet
of a valid label lies below every letter, so folding leaves it alone, and a prefix that is itself
made of whole labels can only end where a label of the name ends.

* `fold_ofLabels`: folding a wire form folds its labels.
* `fold_ofLabels_eq_iff`: two wire forms fold to the same string exactly when their labels do.
* `validate_of_fold_eq`: a string that folds as a wire form does is one itself.
* `flatMap_labelWire_prefix_iff`: written labels are a prefix of a wire form exactly when they are
  its first labels.
* `flatMap_labelWire_append_inj`: equally many labels at the front of a string are the same labels.
* `prefix_iff_of_fold_eq`: the case of letters does not matter to a prefix without letters.
-/

namespace StaticDns.Name

/-! ## Case folding -/

theorem foldOctet_eq_self {octet : UInt8} (h : octet.toNat ≤ maxLabel) :
    Octets.foldOctet octet = octet := by
  unfold Octets.foldOctet
  rw [if_neg]
  rintro ⟨low, -⟩
  have letter : 0x41 ≤ octet.toNat := UInt8.le_iff_toNat_le.mp low
  simp only [maxLabel] at h
  omega

theorem toNat_length {label : Octets} (h : ValidLabel label) :
    (UInt8.ofNat label.length).toNat = label.length := by
  have bound : label.length ≤ 63 := h.2
  rw [UInt8.toNat_ofNat']
  omega

theorem validLabel_fold {label : Octets} (h : ValidLabel label) :
    ValidLabel (Octets.fold label) := by
  simpa only [ValidLabel, Octets.length_fold] using h

theorem validLabels_fold {labels : List Octets} (h : ∀ label ∈ labels, ValidLabel label) :
    ∀ label ∈ labels.map Octets.fold, ValidLabel label := by
  rw [List.forall_mem_map]
  exact fun label mem => validLabel_fold (h label mem)

theorem fold_labelWire {label : Octets} (h : ValidLabel label) :
    Octets.fold (labelWire label) = labelWire (Octets.fold label) := by
  have length : Octets.foldOctet (UInt8.ofNat label.length) = UInt8.ofNat label.length :=
    foldOctet_eq_self (by rw [toNat_length h]; exact h.2)
  rw [labelWire, labelWire, Octets.length_fold]
  show Octets.foldOctet (UInt8.ofNat label.length) :: Octets.fold label = _
  rw [length]

theorem fold_append (front back : Octets) :
    Octets.fold (front ++ back) = Octets.fold front ++ Octets.fold back :=
  List.map_append

theorem ofLabels_cons (label : Octets) (labels : List Octets) :
    ofLabels (label :: labels) = labelWire label ++ ofLabels labels := by
  simp [ofLabels]

/-- **Folding never touches a length octet**: a folded wire form is the wire form of the folded
labels. -/
theorem fold_ofLabels {labels : List Octets} (h : ∀ label ∈ labels, ValidLabel label) :
    Octets.fold (ofLabels labels) = ofLabels (labels.map Octets.fold) := by
  induction labels with
  | nil => rfl
  | cons label labels ih =>
    obtain ⟨first, h⟩ := List.forall_mem_cons.mp h
    rw [ofLabels_cons, List.map_cons, ofLabels_cons, fold_append, fold_labelWire first, ih h]

theorem fold_ofLabels_eq_iff {ls ms : List Octets} (hl : ∀ label ∈ ls, ValidLabel label)
    (hm : ∀ label ∈ ms, ValidLabel label) :
    Octets.fold (ofLabels ls) = Octets.fold (ofLabels ms) ↔
      ls.map Octets.fold = ms.map Octets.fold := by
  rw [fold_ofLabels hl, fold_ofLabels hm]
  exact ⟨ofLabels_inj (validLabels_fold hl) (validLabels_fold hm), congrArg ofLabels⟩

/-- Only an octet itself folds to an octet that no length octet of a label exceeds. -/
theorem foldOctet_eq_iff {octet small : UInt8} (h : small.toNat ≤ maxLabel) :
    Octets.foldOctet octet = small ↔ octet = small := by
  constructor
  · rintro rfl
    unfold Octets.foldOctet at h ⊢
    split_ifs at h ⊢ with letter
    · obtain ⟨low, high⟩ := letter
      rw [UInt8.le_iff_toNat_le] at low high
      rw [UInt8.toNat_add] at h
      simp only [maxLabel, UInt8.reduceToNat, Nat.reducePow] at h low high
      omega
    · rfl
  · rintro rfl
    exact foldOctet_eq_self h

/-- A string that folds to a wire form is one: the length octets are its own, so its labels lie
where the folded ones do. -/
theorem exists_ofLabels_of_fold_eq {ms : List Octets} (hm : ∀ label ∈ ms, ValidLabel label)
    {name : Octets} (h : Octets.fold name = ofLabels ms) :
    ∃ ls, (∀ label ∈ ls, ValidLabel label) ∧ name = ofLabels ls := by
  induction ms generalizing name with
  | nil =>
    -- only the terminator folds to the terminator
    obtain ⟨octet, rfl, zero⟩ := List.map_eq_singleton_iff.mp h
    rw [foldOctet_eq_iff (by decide)] at zero
    exact ⟨[], by simp, by rw [zero]; rfl⟩
  | cons m ms ih =>
    obtain ⟨valid, others⟩ := List.forall_mem_cons.mp hm
    rw [ofLabels_cons] at h
    obtain ⟨front, back, rfl, first, rest⟩ := List.map_eq_append_iff.mp h
    obtain ⟨ls, hl, rfl⟩ := ih others rest
    obtain ⟨size, label, rfl, length, rfl⟩ := List.map_eq_cons_iff.mp first
    rw [foldOctet_eq_iff (by rw [toNat_length valid]; exact valid.2)] at length
    have sound : ValidLabel label := by simpa only [ValidLabel, List.length_map] using valid
    refine ⟨label :: ls, List.forall_mem_cons.mpr ⟨sound, hl⟩, ?_⟩
    rw [ofLabels_cons, labelWire, length, List.length_map]

/-- **The check of a name does not see the case of letters.** -/
theorem validate_of_fold_eq {name other : Octets} (same : Octets.fold other = Octets.fold name)
    (sound : validate name = .ok ()) : validate other = .ok () := by
  obtain ⟨labels, valid, rfl⟩ := validate_eq_ok_iff.mp sound
  rw [fold_ofLabels valid] at same
  exact validate_eq_ok_iff.mpr (exists_ofLabels_of_fold_eq (validLabels_fold valid) same)

/-! ## Prefixes -/

theorem labelWire_inj {l m r s : Octets} (hl : ValidLabel l) (hm : ValidLabel m)
    (h : labelWire l ++ r = labelWire m ++ s) : l = m ∧ r = s := by
  simp only [labelWire, List.cons_append, List.cons.injEq] at h
  obtain ⟨size, rest⟩ := h
  have length : l.length = m.length := by
    rw [← toNat_length hl, ← toNat_length hm, size]
  exact List.append_inj rest length

/-- **A prefix ends on a label boundary**: whole labels stand at the front of a wire form only as
its first labels. -/
theorem flatMap_labelWire_prefix_iff {ls ms : List Octets} (hl : ∀ label ∈ ls, ValidLabel label)
    (hm : ∀ label ∈ ms, ValidLabel label) :
    ls.flatMap labelWire <+: ofLabels ms ↔ ls <+: ms := by
  induction ls generalizing ms with
  | nil => simp
  | cons l ls ih =>
    obtain ⟨valid, hl⟩ := List.forall_mem_cons.mp hl
    cases ms with
    | nil =>
      -- only the terminator is left, and no label begins with a zero octet
      simp only [List.prefix_nil, reduceCtorEq, iff_false]
      rintro ⟨rest, same⟩
      simp only [List.flatMap_cons, labelWire, ofLabels, List.flatMap_nil, List.nil_append,
        List.cons_append, List.cons.injEq] at same
      have length := toNat_length valid
      rw [same.1] at length
      have positive : 1 ≤ l.length := valid.1
      rw [← length] at positive
      exact absurd positive (by decide)
    | cons m ms =>
      obtain ⟨first, hm⟩ := List.forall_mem_cons.mp hm
      rw [List.cons_prefix_cons, ← ih hl hm]
      constructor
      · rintro ⟨behind, same⟩
        rw [List.flatMap_cons, List.append_assoc, ofLabels_cons] at same
        obtain ⟨rfl, tail⟩ := labelWire_inj valid first same
        exact ⟨rfl, behind, tail⟩
      · rintro ⟨rfl, behind, tail⟩
        refine ⟨behind, ?_⟩
        rw [List.flatMap_cons, List.append_assoc, tail, ofLabels_cons]

/-- Labels at the front of any string are told apart from as many others by their length octets. -/
theorem flatMap_labelWire_append_inj {ls ms : List Octets} {r s : Octets}
    (hl : ∀ label ∈ ls, ValidLabel label) (hm : ∀ label ∈ ms, ValidLabel label)
    (count : ls.length = ms.length)
    (h : ls.flatMap labelWire ++ r = ms.flatMap labelWire ++ s) : ls = ms := by
  induction ls generalizing ms with
  | nil => exact (List.length_eq_zero_iff.mp count.symm).symm
  | cons l ls ih =>
    cases ms with
    | nil => cases count
    | cons m ms =>
      obtain ⟨left, lefts⟩ := List.forall_mem_cons.mp hl
      obtain ⟨right, rights⟩ := List.forall_mem_cons.mp hm
      rw [List.flatMap_cons, List.flatMap_cons, List.append_assoc, List.append_assoc] at h
      obtain ⟨rfl, rest⟩ := labelWire_inj left right h
      rw [ih lefts rights (Nat.succ.inj count) rest]

theorem prefix_fold_iff {front name : Octets}
    (letterless : ∀ octet ∈ front, octet.toNat ≤ maxLabel) :
    front <+: Octets.fold name ↔ front <+: name := by
  induction front generalizing name with
  | nil => simp
  | cons octet front ih =>
    obtain ⟨small, letterless⟩ := List.forall_mem_cons.mp letterless
    cases name with
    | nil => rfl
    | cons first name =>
      show octet :: front <+: Octets.foldOctet first :: Octets.fold name ↔ _
      rw [List.cons_prefix_cons, List.cons_prefix_cons, ih letterless, eq_comm,
        foldOctet_eq_iff small, eq_comm]

theorem prefix_iff_of_fold_eq {front name other : Octets}
    (letterless : ∀ octet ∈ front, octet.toNat ≤ maxLabel)
    (same : Octets.fold other = Octets.fold name) : front <+: other ↔ front <+: name := by
  rw [← prefix_fold_iff letterless, same, prefix_fold_iff letterless]

end StaticDns.Name
