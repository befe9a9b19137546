import SearchBuilder.Proofs.Document.Steps
import SearchBuilder.Proofs.Session.Discipline

/-!
# Nodes as children

A node of good shape is a document of its category, and a span query if its kind is one
(`Node.Shaped.isDocument`). So whatever passes the check of a slot is a document that the slot may
hold, also if the receiver is put into itself.
-/

namespace SearchBuilder

namespace Child

variable {child : Child}

theorem satisfies_category {c : Category} :
    child.satisfies (.category c) = true ↔ child.category = some c := decide_eq_true_iff

theorem satisfies_spanQuery : child.satisfies .spanQuery = true ↔
    child.category = some .query ∧ isSpanFragment child.fragment = true := by
  unfold satisfies
  rw [Bool.and_eq_true, decide_eq_true_iff]

end Child

/-- A node as others see it is a document of whatever it passes for. -/
def Child.Genuine (child : Child) : Prop :=
  ∀ expected, child.satisfies expected = true → IsDocument expected child.fragment

namespace Node.Shaped

variable {safe : Prop} {n : Node}

theorem exists_envelope (h : n.Shaped safe) (hsealed : n.kind.isSealed = true) :
    ∃ body, n.fragment = .obj [(n.slot, .obj body)] ∧ Fits n.kind.bodySlots body := by
  obtain ⟨value, hvalue⟩ := h.sealed hsealed
  have hhas : n.kind.hasBody = true := by simp [Kind.hasBody, hsealed]
  obtain ⟨body, hbody, hfits, -⟩ := h.body hhas
  refine ⟨body, ?_, hfits⟩
  simp only [Node.valueAt, hvalue, Json.member, Entries.get?, if_true, Option.getD_some] at hbody
  rw [hvalue, hbody]

/-- The envelope of a kind that admits one slot only. -/
theorem exists_keyed (h : n.Shaped safe) {k : Kind} (hkind : n.kind = k)
    (hsealed : k.isSealed = true) {key : String}
    (hkey : k.admitsSlot n.slot = true → n.slot = key) :
    ∃ body, n.fragment = .obj [(key, .obj body)] ∧ Fits k.bodySlots body := by
  subst hkind
  rw [← hkey h.slot]
  exact h.exists_envelope hsealed

theorem exists_query (h : n.Shaped safe) {k : QueryKind} (hkind : n.kind = .query k) :
    k ≠ .generic ∧ ∃ body, n.fragment = .obj [(k.discriminator, .obj body)] ∧
      Fits k.slots body := by
  refine ⟨?_, h.exists_keyed hkind rfl of_decide_eq_true⟩
  rintro rfl
  have hconcrete := h.concrete
  rw [hkind] at hconcrete
  cases hconcrete

theorem exists_filter (h : n.Shaped safe) {k : FilterKind} (hkind : n.kind = .filter k) :
    k ≠ .generic ∧ ∃ body, n.fragment = .obj [(k.discriminator, .obj body)] ∧
      Fits k.slots body := by
  refine ⟨?_, h.exists_keyed hkind rfl of_decide_eq_true⟩
  rintro rfl
  have hconcrete := h.concrete
  rw [hkind] at hconcrete
  cases hconcrete

theorem isDocument (h : n.Shaped safe) {c : Category} (hc : n.kind.category = some c) :
    IsDocument (.category c) n.fragment := by
  have hlabelled (hl : n.kind.isLabelled = true) (hs : n.kind.isSealed = true) :
      IsDocument (.category c) n.fragment := by
    obtain ⟨body, hbody, hfits⟩ := h.exists_envelope hs
    rw [hbody]
    exact .labelled n.kind h.concrete hl hc hfits
  have hopen (ho : n.kind.isOpen = true) (hg : n.kind ≠ .geoPoint) :
      IsDocument (.category c) n.fragment := by
    obtain ⟨members, hmembers, hfits⟩ := h.root hg
    rw [hmembers]
    exact .bare n.kind h.concrete ho hc hfits
  cases hkind : n.kind with
  | query k =>
    rw [hkind] at hc
    cases hc
    obtain ⟨hk, body, hbody, hfits⟩ := h.exists_query hkind
    rw [hbody]
    exact .query k hk hfits
  | filter k =>
    rw [hkind] at hc
    cases hc
    obtain ⟨hk, body, hbody, hfits⟩ := h.exists_filter hkind
    rw [hbody]
    exact .filter k hk hfits
  | aggregation k | facet k | suggester k | scriptField | sort =>
    exact hlabelled (by rw [hkind]; rfl) (by rw [hkind]; rfl)
  | score k | generator | shape | indexedShape | highlight | request =>
    exact hopen (by rw [hkind]; rfl) (by rw [hkind]; exact Kind.noConfusion)
  | rescore =>
    -- The body stands beside the window, so the fragment is no envelope.
    obtain ⟨members, body, hmembers, -, hget, -, hfits, -⟩ := h.get?_slot (by rw [hkind]; rfl)
    have hslot := h.slot
    rw [hkind] at hc hfits hslot
    cases hc
    rw [hmembers]
    refine .rescore ?_ hfits
    rw [← hget, show n.slot = "query" by simpa [Kind.admitsSlot, Kind.isSealed, Kind.isLabelled,
      Kind.slotKeys] using hslot]
  | geoPoint =>
    rw [hkind] at hc
    cases hc
    exact .geoPoint _
  | plain =>
    rw [hkind] at hc
    cases hc

/-- A node passes for a span query if its kind is one. -/
theorem isPrefixOf_of_satisfies (h : n.Shaped safe)
    (hs : n.toChild.satisfies .spanQuery = true) :
    ∃ k, n.kind = .query k ∧ "span_".isPrefixOf k.discriminator = true := by
  obtain ⟨hcategory, hspan⟩ := Child.satisfies_spanQuery.1 hs
  change n.kind.category = some .query at hcategory
  change isSpanFragment n.fragment = true at hspan
  cases hkind : n.kind with
  | query k =>
    obtain ⟨-, body, hbody, -⟩ := h.exists_query hkind
    refine ⟨k, rfl, ?_⟩
    rw [hbody] at hspan
    simpa [isSpanFragment] using hspan
  | _ =>
    rw [hkind] at hcategory
    cases hcategory

/-- What a node passes for, it is, and so is the node later on. -/
theorem isDocument_of_satisfies (h : n.Shaped safe) {m : Node} (hm : m.Shaped safe)
    (hkind : m.kind = n.kind) {expected : Expected}
    (hs : n.toChild.satisfies expected = true) : IsDocument expected m.fragment := by
  cases expected with
  | category c =>
    refine hm.isDocument ?_
    rw [hkind]
    exact Child.satisfies_category.1 hs
  | spanQuery =>
    obtain ⟨k, hk, hprefix⟩ := h.isPrefixOf_of_satisfies hs
    obtain ⟨-, body, hbody, hfits⟩ := hm.exists_query (hkind.trans hk)
    rw [hbody]
    exact .spanQuery k hprefix hfits

/-- Others see a node of good shape as what it is. -/
theorem toChild_genuine (h : n.Shaped safe) : n.toChild.Genuine :=
  fun _ hs => h.isDocument_of_satisfies h rfl hs

end Node.Shaped

namespace Argument

variable {safe : Prop} {n m : Node} {v : Argument} {expected : Expected}

/-- An argument that passes a check is a document, when the call looks at it and later. -/
theorem isDocument_snapshot (hv : v.Shows Child.Genuine) (hn : n.Shaped safe) (hm : m.Shaped safe)
    (hkind : m.kind = n.kind) (h : v.satisfies n expected = true) :
    IsDocument expected (v.snapshot m) := by
  cases hv with
  | node hgenuine => exact hgenuine expected (by simpa [satisfies, child?] using h)
  | receiver =>
    exact hn.isDocument_of_satisfies hm hkind (by simpa [satisfies, child?] using h)
  | _ => cases h

end Argument

end SearchBuilder
