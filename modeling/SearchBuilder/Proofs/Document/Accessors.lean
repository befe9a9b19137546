import SearchBuilder.Proofs.Document.Children

/-!
# Accessors on nodes of good shape

An accessor suits a kind if the kind offers its place, its key is free there, and the form of the
key admits whatever the accessor stores. On a node of good shape such an accessor leaves good shape
and finds all that it looks for (`Accessor.run_sound`).
-/

namespace SearchBuilder

open Outcome

namespace Accessor

/-- Whether all that an accessor stores has a form. -/
def fits : Accessor → Form → Bool
  | child _ _ expected, form => form = .any || form = .one expected
  | children _ _ expected, form => form = .many expected false || form = .many expected true
  | «section» _ _ (.category c), form =>
    [.aggregation, .facet, .suggest, .scriptField].contains c &&
      (form = .object || form = .named c)
  | «section» _ _ .spanQuery, _ => false
  | names _ _ _, form => form = .any || form = .list false || form = .list true
  | growingNames _ _ _, form => form = .list false
  | heldNames _ _ _, form => form = .list true
  | _, form => form = .any

/-- Whether an accessor is one that nodes of a kind may have. -/
def suits (a : Accessor) (k : Kind) : Bool :=
  k.offers a.place && k.frees a.place a.key && a.fits ((k.slotsAt a.place).form a.key)

theorem offers_of_suits {a : Accessor} {k : Kind} (h : a.suits k = true) :
    k.offers a.place = true := by
  simp only [suits, Bool.and_eq_true] at h
  exact h.1.1

theorem frees_of_suits {a : Accessor} {k : Kind} (h : a.suits k = true) :
    k.frees a.place a.key = true := by
  simp only [suits, Bool.and_eq_true] at h
  exact h.1.2

theorem fits_of_suits {a : Accessor} {k : Kind} (h : a.suits k = true) :
    a.fits ((k.slotsAt a.place).form a.key) = true := by
  simp only [suits, Bool.and_eq_true] at h
  exact h.2

theorem admits_ofStrings {form : Form} (h : form = .any ∨ form.isList = true ∧
    ∀ j, form.Takes (.str j)) (texts : List String) : Admits form (some (.ofStrings texts)) := by
  rcases h with rfl | ⟨hlist, htakes⟩
  · exact .any _
  · refine Form.admits_items hlist fun item hitem => ?_
    obtain ⟨text, -, rfl⟩ := List.mem_map.1 hitem
    exact htakes text

variable {safe : Prop} {n : Node} {v : Argument}

theorem read_sound {a : Accessor} (hn : n.Shaped safe) (h : a.suits n.kind = true) :
    (a.read n).Sound safe := by
  have hread := Node.readOption_sound hn (offers_of_suits h) a.key
  cases a with
  | heldNames place key what =>
    have hform : (n.kind.slotsAt place).form key = .list true :=
      of_decide_eq_true (fits_of_suits h)
    have hoffers : n.kind.offers place = true := offers_of_suits h
    refine Node.readHeld_sound hn hoffers fun hsafe members hvalue => ?_
    exact Node.contains_of_required hn hoffers hsafe (by rw [hform]; rfl) members hvalue
  | _ => exact hread

/-- Whatever passes the check of a section is an object that may be merged into it. -/
theorem exists_additions {c : Category} {form : Form} {j : Json}
    (hc : [Category.aggregation, .facet, .suggest, .scriptField].contains c = true)
    (hform : form = .object ∨ form = .named c) (hj : IsDocument (.category c) j) :
    ∃ additions, j = .obj additions ∧ form.TakesMembers additions := by
  have hlabelled : c = .aggregation ∨ c = .facet ∨ c = .suggest ∨ c = .scriptField := by
    simpa using List.contains_iff_mem.1 hc
  obtain ⟨label, body, rfl⟩ := hj.exists_label hlabelled
  refine ⟨_, rfl, ?_⟩
  rcases hform with rfl | rfl
  · trivial
  · intro entry hentry
    rw [List.mem_singleton.1 hentry]
    exact hj

theorem write_sound {a : Accessor} (hn : n.Shaped safe) (h : a.suits n.kind = true)
    (hv : v.Shows Child.Genuine) : (a.write n v).Sound safe := by
  have hoffers := offers_of_suits h
  have hfrees := frees_of_suits h
  have hfits := fits_of_suits h
  have hwrite {value : Json}
      (hvalue : Admits ((n.kind.slotsAt a.place).form a.key) (some value)) :
      (n.writeOption a.place a.key value).Sound safe :=
    Node.writeOption_sound hn hoffers hfrees hvalue
  have hany (hform : (n.kind.slotsAt a.place).form a.key = .any) (value : Json) :
      (n.writeOption a.place a.key value).Sound safe := hwrite (by rw [hform]; exact .any _)
  have hnames (hform : (n.kind.slotsAt a.place).form a.key = .any ∨
      ((n.kind.slotsAt a.place).form a.key).isList = true ∧
        ∀ s, ((n.kind.slotsAt a.place).form a.key).Takes (.str s)) (texts : List String) :
      (n.writeOption a.place a.key (.ofStrings texts)).Sound safe :=
    hwrite (admits_ofStrings hform texts)
  cases a with
  | option place key => exact hany (of_decide_eq_true hfits) _
  | choice place key words folding =>
    have hform := of_decide_eq_true hfits
    simp only [write]
    split
    · exact sound_refused hn _
    · split
      · exact hany hform _
      · exact sound_noticed hn _
  | child place key expected =>
    simp only [fits, Bool.or_eq_true, decide_eq_true_eq] at hfits
    simp only [write]
    split
    · next hs =>
      refine hwrite ?_
      rcases hfits with hform | hform
      · exact hform ▸ .any _
      · exact hform ▸ .one (v.isDocument_snapshot hv hn hn rfl hs)
    · exact sound_refused hn _
  | children place key expected =>
    obtain ⟨required, hform⟩ :
        ∃ required, (n.kind.slotsAt place).form key = .many expected required := by
      simp only [fits, Bool.or_eq_true, decide_eq_true_eq] at hfits
      rcases hfits with hform | hform
      · exact ⟨_, hform⟩
      · exact ⟨_, hform⟩
    simp only [write]
    split
    · next items hitems =>
      split
      · next hall =>
        refine hwrite (hform ▸ .many fun j hj => ?_)
        obtain ⟨item, hitem, rfl⟩ := List.mem_map.1 hj
        exact item.isDocument_snapshot (v.items_show hv hitems item hitem) hn hn rfl
          (List.all_eq_true.1 hall item hitem)
      · exact sound_refused hn _
    · split
      · next hs =>
        refine Node.appendItem_sound hn hoffers hfrees (hform ▸ rfl) fun m hkind hm => ?_
        exact hform ▸ v.isDocument_snapshot hv hn hm hkind hs
      · exact sound_refused hn _
  | «section» place key expected =>
    cases expected with
    | spanQuery => cases hfits
    | category c =>
      simp only [fits, Bool.and_eq_true, Bool.or_eq_true, decide_eq_true_eq] at hfits
      simp only [write]
      split
      · next hs =>
        refine Node.mergeSection_sound hn hoffers hfrees fun m hkind hm => ?_
        exact exists_additions hfits.1 hfits.2 (v.isDocument_snapshot hv hn hm hkind hs)
      · exact sound_refused hn _
  | names place key what =>
    simp only [fits, Bool.or_eq_true, decide_eq_true_eq] at hfits
    simp only [write]
    split
    · refine hnames ?_ _
      rcases hfits with (hform | hform) | hform
      · exact .inl hform
      · exact .inr ⟨hform ▸ rfl, fun _ => hform ▸ trivial⟩
      · exact .inr ⟨hform ▸ rfl, fun _ => hform ▸ trivial⟩
    · exact sound_refused hn _
  | growingNames place key what =>
    have hform := of_decide_eq_true hfits
    simp only [write]
    split
    · exact Node.appendItem_sound hn hoffers hfrees (hform ▸ rfl) fun _ _ _ => hform ▸ trivial
    · split
      · exact hnames (.inr ⟨hform ▸ rfl, fun _ => hform ▸ trivial⟩) _
      · exact sound_refused hn _
  | heldNames place key what =>
    have hform := of_decide_eq_true hfits
    simp only [write]
    split
    · exact Node.appendHeld_sound hn hoffers hfrees hform _
    · split
      · exact hnames (.inr ⟨hform ▸ rfl, fun _ => hform ▸ trivial⟩) _
      · exact sound_refused hn _
  | number place key =>
    have hform := of_decide_eq_true hfits
    simp only [write]
    split
    · exact hany hform _
    · exact hany hform _
    · exact sound_refused hn _
  | integer place key =>
    have hform := of_decide_eq_true hfits
    simp only [write]
    split
    · exact hany hform _
    · exact sound_refused hn _

theorem run_sound {a : Accessor} (hn : n.Shaped safe) (h : a.suits n.kind = true)
    (hv : v.Shows Child.Genuine) : (a.run n v).Sound safe := by
  unfold run
  split
  · exact read_sound hn h
  · exact write_sound hn h hv

end Accessor

end SearchBuilder
