import ScriptPlugins.Proofs.Files.Frame
import ScriptPlugins.Proofs.Text.Pieces

/-!
# Paths that only lead down

A path without two dots meets nothing on its way but what is above its place. So its place decides
whether it leads there, the directories that are made for it stand on the way, and removing all
that is at its place cannot turn it aside.
-/

namespace ScriptPlugins

open Text

namespace Path

variable {path : Path} {component : Component} {list : List Component} {segment : Bytes}

theorem noSlash_of_mem_segments (h : segment ∈ path.segments) : slash ∉ segment :=
  separator_not_mem_of_mem_pieces slash path.bytes segment (List.mem_filter.1 h).1

theorem ne_nil_of_mem_segments (h : segment ∈ path.segments) : segment ≠ [] := by
  have hsegment := (List.mem_filter.1 h).2
  rintro rfl
  cases hsegment

theorem bytes_of_componentOf (h : componentOf segment = some component) :
    component.bytes = segment ∧ segment ≠ dot ∧ component ≠ .root := by
  rw [componentOf] at h
  by_cases hdot : segment = dot
  · simp [hdot] at h
  · by_cases hdotDot : segment = dotDot
    · rw [if_neg hdot, if_pos hdotDot] at h
      obtain rfl := Option.some.inj h
      exact ⟨hdotDot.symm, hdot, by simp⟩
    · rw [if_neg hdot, if_neg hdotDot] at h
      obtain rfl := Option.some.inj h
      exact ⟨rfl, hdot, by simp⟩

/-- What can come before the components that segments stand for. -/
theorem exists_components (path : Path) : ∃ lead, path.components =
    lead ++ path.segments.filterMap componentOf ∧
      (path.isAbsolute = true ∧ lead = [.root] ∨
        path.isAbsolute = false ∧ (lead = [.here] ∨ lead = [])) := by
  rw [components]
  by_cases habsolute : path.isAbsolute = true
  · exact ⟨[.root], by simp [habsolute], .inl ⟨habsolute, rfl⟩⟩
  · rw [Bool.not_eq_true] at habsolute
    by_cases hhere : path.segments.head? = some dot
    · exact ⟨[.here], by simp [habsolute, hhere], .inr ⟨habsolute, .inl rfl⟩⟩
    · exact ⟨[], by simp [habsolute, hhere], .inr ⟨habsolute, .inr rfl⟩⟩

theorem bytes_of_mem_components (h : component ∈ path.components) :
    slash ∉ component.bytes ∧ (component ≠ .root → component.bytes ≠ []) := by
  obtain ⟨lead, hcomponents, hlead⟩ := exists_components path
  rw [hcomponents, List.mem_append] at h
  rcases h with h | h
  · rcases hlead with ⟨-, rfl⟩ | ⟨-, rfl | rfl⟩
    · obtain rfl := List.mem_singleton.1 h
      exact ⟨List.not_mem_nil, fun hne => absurd rfl hne⟩
    · obtain rfl := List.mem_singleton.1 h
      exact ⟨by decide, fun _ => by decide⟩
    · cases h
  · obtain ⟨segment, hsegment, hcomponent⟩ := List.mem_filterMap.1 h
    rw [(bytes_of_componentOf hcomponent).1]
    exact ⟨noSlash_of_mem_segments hsegment, fun _ => ne_nil_of_mem_segments hsegment⟩

theorem head?_components_eq_root_iff :
    path.components.head? = some .root ↔ path.isAbsolute = true := by
  obtain ⟨lead, hcomponents, hlead⟩ := exists_components path
  rw [hcomponents]
  rcases hlead with ⟨habsolute, rfl⟩ | ⟨hrelative, rfl | rfl⟩
  · simp [habsolute]
  · simp [hrelative]
  · rw [hrelative, List.nil_append]
    refine ⟨fun hhead => ?_, nofun⟩
    obtain ⟨segment, -, hcomponent⟩ := List.mem_filterMap.1 (List.mem_of_head? hhead)
    exact absurd rfl (bytes_of_componentOf hcomponent).2.2

/-- The segments that say where a path leads are those of its components. -/
theorem segments_of_components (path : Path) :
    ((path.components.map Component.bytes).filter (!·.isEmpty)).filter (· != dot) =
      path.segments.filter (· != dot) := by
  have hsegments : ∀ segments : List Bytes, (∀ segment ∈ segments, segment ≠ []) →
      (((segments.filterMap componentOf).map Component.bytes).filter (!·.isEmpty)).filter (· != dot) =
        segments.filter (· != dot) := by
    intro segments hne
    induction segments with
    | nil => rfl
    | cons segment rest ih =>
        have hrest := ih fun other hother => hne other (List.mem_cons_of_mem _ hother)
        have hsegment := hne segment List.mem_cons_self
        cases hcomponent : componentOf segment with
        | none =>
            obtain rfl : segment = dot := by
              by_contra hdot
              simp only [componentOf, if_neg hdot] at hcomponent
              split at hcomponent <;> cases hcomponent
            rw [List.filterMap_cons_none hcomponent, hrest]
            rfl
        | some component =>
            obtain ⟨hbytes, hdot, -⟩ := bytes_of_componentOf hcomponent
            rw [List.filterMap_cons_some hcomponent, List.map_cons, hbytes]
            simp [hsegment, hdot, ← hrest]
  obtain ⟨lead, hcomponents, hlead⟩ := exists_components path
  have hinner := hsegments path.segments fun _ => ne_nil_of_mem_segments
  rw [hcomponents, List.map_append, List.filter_append, List.filter_append, hinner]
  rcases hlead with ⟨-, rfl⟩ | ⟨-, rfl | rfl⟩ <;> rfl

theorem segments_ofComponents (h : ∀ component ∈ list, slash ∉ component.bytes) :
    (ofComponents list).segments = (list.map Component.bytes).filter (!·.isEmpty) := by
  unfold ofComponents
  split
  · rfl
  · by_cases hempty : list = []
    · rw [hempty]
      rfl
    · rw [segments, pieces_join slash]
      · simpa using hempty
      · intro piece hpiece
        obtain ⟨component, hcomponent, rfl⟩ := List.mem_map.1 hpiece
        exact h component hcomponent

theorem isAbsolute_ofComponents (hslash : ∀ component ∈ list, slash ∉ component.bytes)
    (hbytes : ∀ component ∈ list, component ≠ .root → component.bytes ≠ []) :
    (ofComponents list).isAbsolute = true ↔ list.head? = some .root := by
  cases list with
  | nil => simp [ofComponents, Text.join, isAbsolute]
  | cons first rest =>
      by_cases hroot : first = .root
      · rw [hroot]
        cases rest <;> simp [ofComponents, Text.join, isAbsolute, Component.bytes]
      · obtain ⟨b, more, hfirst⟩ := List.exists_cons_of_ne_nil (hbytes first List.mem_cons_self hroot)
        have hb : b ≠ slash := by
          rintro rfl
          exact hslash first List.mem_cons_self (hfirst ▸ List.mem_cons_self)
        have hjoin : (ofComponents (first :: rest)).bytes.head? = some b := by
          cases rest with
          | nil => simp [ofComponents, Text.join, hroot, hfirst]
          | cons next others => simp [ofComponents, Text.join, hfirst]
        simp [isAbsolute, hjoin, hb, hroot]

/-- A path that names something and never goes back. -/
structure Descends (path : Path) : Prop where
  ne_nil : path.bytes ≠ []
  noParent : dotDot ∉ path.segments

instance (path : Path) : Decidable path.Descends :=
  decidable_of_iff (path.bytes ≠ [] ∧ dotDot ∉ path.segments)
    ⟨fun ⟨ne_nil, noParent⟩ => ⟨ne_nil, noParent⟩, fun h => ⟨h.ne_nil, h.noParent⟩⟩

end Path

namespace Tree

variable {tree later before middle after : Tree} {path ancestor : Path}
  {here location other : Location} {names : List Bytes} {paths made rest : List Path} {name : Bytes}
  {way : Location → Prop}

theorem resolve_of_noParent (here : Location) (h : Path.dotDot ∉ names) :
    resolve here names = here ++ names.filter (· != Path.dot) := by
  induction names generalizing here with
  | nil => exact (List.append_nil here).symm
  | cons name rest ih =>
      rw [List.mem_cons, not_or] at h
      obtain ⟨hname, hrest⟩ := h
      have hstep : resolve here (name :: rest) = resolve (turn here name) rest := rfl
      rw [hstep, ih (turn here name) hrest, turn, if_neg (Ne.symm hname)]
      by_cases hdot : name = Path.dot
      · simp [hdot]
      · simp [hdot]

theorem prefix_resolve (here : Location) (h : Path.dotDot ∉ names) :
    here <+: resolve here names := by
  rw [resolve_of_noParent here h]
  exact List.prefix_append _ _

/-- A path above another goes the first part of its way. -/
theorem segments_ofComponents_take (tree : Tree) (path : Path) {count : Nat}
    (hne : path.components.take count ≠ []) :
    tree.start (.ofComponents (path.components.take count)) = tree.start path ∧
      (Path.ofComponents (path.components.take count)).segments.filter (· != Path.dot) <+:
        path.segments.filter (· != Path.dot) := by
  have hbytes : ∀ component ∈ path.components.take count, Path.slash ∉ component.bytes ∧
      (component ≠ .root → component.bytes ≠ []) := fun component hcomponent =>
    Path.bytes_of_mem_components (List.mem_of_mem_take hcomponent)
  constructor
  · have habsolute := Path.isAbsolute_ofComponents (fun component h => (hbytes component h).1)
      fun component h => (hbytes component h).2
    have hhead : (path.components.take count).head? = path.components.head? := by
      rw [List.head?_take, if_neg]
      rintro rfl
      exact hne List.take_zero
    rw [hhead, Path.head?_components_eq_root_iff, ← Bool.eq_iff_iff] at habsolute
    rw [start, start, habsolute]
  · have hsegments := Path.segments_ofComponents fun component h => (hbytes component h).1
    have hunder := (((List.take_prefix count path.components).map Path.Component.bytes).filter
      (!·.isEmpty)).filter (· != Path.dot)
    rwa [path.segments_of_components, ← hsegments] at hunder

theorem segments_of_mem_ancestors (tree : Tree) (h : ancestor ∈ ancestors path) :
    tree.start ancestor = tree.start path ∧
      ancestor.segments.filter (· != Path.dot) <+: path.segments.filter (· != Path.dot) := by
  rw [ancestors, List.mem_cons] at h
  rcases h with rfl | h
  · exact ⟨rfl, List.prefix_rfl⟩
  · obtain ⟨hmem, hsome⟩ := List.mem_filter.1 h
    obtain ⟨dropped, -, rfl⟩ := List.mem_map.1 hmem
    refine segments_ofComponents_take tree path ?_
    intro hempty
    rw [hempty] at hsome
    exact absurd hsome (by decide)

/-- All that a path stands for above it is on the way to its place. -/
theorem place_of_mem_ancestors (tree : Tree) (hparent : Path.dotDot ∉ path.segments)
    (h : ancestor ∈ ancestors path) : tree.place ancestor <+: tree.place path := by
  obtain ⟨hstart, hunder⟩ := segments_of_mem_ancestors tree h
  have hnoParent : Path.dotDot ∉ ancestor.segments := by
    intro hmem
    have hfiltered : Path.dotDot ∈ ancestor.segments.filter (· != Path.dot) :=
      List.mem_filter.2 ⟨hmem, by decide⟩
    exact hparent (List.mem_filter.1 (hunder.subset hfiltered)).1
  rw [place, place, hstart, resolve_of_noParent _ hnoParent, resolve_of_noParent _ hparent]
  exact List.prefix_append_right_inj _ |>.2 hunder

/-- The way to a place is open in any tree that has the directories on it. -/
theorem Passable.transfer (hparent : Path.dotDot ∉ names) (h : tree.Passable here names)
    (hkept : ∀ location, location <+: resolve here names → tree.get? location = some .directory →
      later.get? location = some .directory) : later.Passable here names := by
  induction names generalizing here with
  | nil => trivial
  | cons name rest ih =>
      obtain ⟨hhere, hname, hrest⟩ := h
      refine ⟨hkept here (prefix_resolve here hparent) hhere, hname, ?_⟩
      rw [List.mem_cons, not_or] at hparent
      exact ih hparent.2 hrest hkept

theorem noParent_steps (h : Path.dotDot ∉ path.segments) : Path.dotDot ∉ steps path := by
  rw [steps, List.mem_append, not_or]
  refine ⟨h, ?_⟩
  split <;> decide

theorem Leads.transfer (h : tree.Leads path) (hparent : Path.dotDot ∉ path.segments)
    (hhome : later.home = tree.home)
    (hkept : ∀ location, location <+: tree.place path → tree.get? location = some .directory →
      later.get? location = some .directory) : later.Leads path := by
  refine ⟨h.accepted, ?_⟩
  have hstart : later.start path = tree.start path := by rw [start, start, hhome]
  rw [hstart]
  refine h.passable.transfer (noParent_steps hparent) ?_
  rw [resolve_steps]
  exact hkept

/-- A path that leads somewhere once directories have been made did so before, if there was
anything at its place. -/
theorem Leads.of_frame (h : after.Leads path) (hparent : Path.dotDot ∉ path.segments)
    (hframe : Frame nowhere before after) (hwell : before.WellFormed)
    (hentry : before.get? (before.place path) ≠ none) : before.Leads path := by
  refine h.transfer hparent hframe.home.symm ?_
  intro location hlocation hdirectory
  rw [hframe.place] at hlocation
  obtain ⟨entry, hentry⟩ := Option.ne_none_iff_exists'.1 hentry
  obtain ⟨more, hmore⟩ := hlocation
  by_cases hempty : more = []
  · obtain rfl : location = before.place path := by rw [← hmore, hempty, List.append_nil]
    rw [hframe.get?_of_some id hentry] at hdirectory
    rwa [hdirectory] at hentry
  · rw [← hmore] at hentry
    exact hwell.get?_of_prefix hentry hempty

theorem Leads.of_join_name (hname : Path.IsName name) (hne : path.bytes ≠ [])
    (h : tree.Leads (path.join ⟨name⟩)) : tree.Leads path := by
  obtain ⟨haccepted, hpassable⟩ := h
  rw [start, Path.isAbsolute_join_name hname, ← start, steps, Path.endsInSlash_join_name hname,
    if_neg Bool.false_ne_true, List.append_nil, Path.segments_join_name hname,
    passable_append] at hpassable
  obtain ⟨hsegments, hdirectory, -, -⟩ := hpassable
  constructor
  · have hbytes : ∃ more, (path.join ⟨name⟩).bytes = path.bytes ++ more := by
      rcases Path.bytes_join (Path.isAbsolute_ofName hname) with ⟨hjoin, -⟩ | ⟨hjoin, -⟩
      · exact ⟨_, hjoin⟩
      · exact ⟨_, hjoin⟩
    obtain ⟨more, hmore⟩ := hbytes
    simp only [refusal?, hmore] at haccepted ⊢
    by_cases hnul : (0 : UInt8) ∈ path.bytes
    · simp [hnul] at haccepted
    · by_cases hlong : path.bytes.length ≥ pathLimit
      · have : (path.bytes ++ more).length ≥ pathLimit := by
          rw [List.length_append]
          omega
        simp only [this] at haccepted
        split at haccepted
        · cases haccepted
        · split at haccepted <;> simp at haccepted
      · simp [hnul, hne, hlong]
  · rw [steps, passable_append]
    refine ⟨hsegments, ?_⟩
    split
    · exact ⟨hdirectory, by decide, trivial⟩
    · trivial

/-- Only what is on the way has changed: there are new directories. -/
structure Paved (way : Location → Prop) (before after : Tree) : Prop where
  frame : Frame nowhere before after
  aside : ∀ other, ¬ way other → after.get? other = before.get? other

theorem Paved.refl (way : Location → Prop) (tree : Tree) : Paved way tree tree :=
  ⟨.refl _ tree, fun _ _ => rfl⟩

theorem Paved.trans (h : Paved way before middle) (h' : Paved way middle after) :
    Paved way before after :=
  ⟨h.frame.trans h'.frame,
    fun other hother => (h'.aside other hother).trans (h.aside other hother)⟩

theorem LinkFree.paved_makeDirectory (hfree : tree.LinkFree) (hpath : way (tree.place path))
    (h : tree.makeDirectory path = .ok later) : Paved way tree later := by
  refine ⟨frame_makeDirectory h, ?_⟩
  obtain ⟨found, hlast, h⟩ := bind_eq_ok_iff.1 h
  cases found with
  | special segment => simp at h
  | name parent name =>
      rw [hfree.place_of_last hlast] at hpath
      cases hentry : tree.get? (parent ++ [name]) with
      | some entry => simp [hentry] at h
      | none =>
          obtain rfl : tree.put (parent ++ [name]) .directory = later := by
            simpa [hentry, pure, Except.pure] using h
          intro other hother
          rw [get?_put tree (by simp), if_neg]
          rintro rfl
          exact hother hpath

theorem LinkFree.paved_makeEach (hfree : tree.LinkFree)
    (h : ∀ path ∈ paths, way (tree.place path)) : Paved way tree (tree.makeEach paths).2 := by
  induction paths generalizing tree with
  | nil => exact .refl way tree
  | cons path rest ih =>
      have hrest : ∀ other ∈ rest, way (tree.place other) := fun other hother =>
        h other (List.mem_cons_of_mem _ hother)
      rw [makeEach]
      cases hmade : tree.makeDirectory path with
      | ok later =>
          have hstep := hfree.paved_makeDirectory (h path List.mem_cons_self) hmade
          refine hstep.trans (ih (hstep.frame.linkFree hfree) ?_)
          intro other hother
          rw [hstep.frame.place]
          exact hrest other hother
      | error fault =>
          by_cases hthere : fault = .exists && tree.isDirectory path
          · simp only [hthere, if_true]
            exact ih hfree hrest
          · simp only [hthere]
            exact .refl way tree

theorem LinkFree.paved_missing (hfree : tree.LinkFree)
    (hpaths : ∀ path ∈ paths, way (tree.place path))
    (hmade : ∀ path ∈ made, way (tree.place path)) (h : tree.missing made paths = .ok (later, rest)) :
    Paved way tree later ∧ ∀ path ∈ rest, way (tree.place path) := by
  induction paths generalizing made with
  | nil =>
      obtain ⟨rfl, rfl⟩ : tree = later ∧ made = rest := by simpa [missing] using h
      exact ⟨.refl way tree, hmade⟩
  | cons path more ih =>
      have hpath := hpaths path List.mem_cons_self
      rw [missing] at h
      split at h
      · next done hdone =>
          obtain ⟨rfl, rfl⟩ := Prod.mk.inj (Except.ok.inj h)
          exact ⟨hfree.paved_makeDirectory hpath hdone, hmade⟩
      · refine ih (fun other hother => hpaths other (List.mem_cons_of_mem _ hother)) ?_ h
        intro other hother
        rcases List.mem_cons.1 hother with rfl | hother
        · exact hpath
        · exact hmade other hother
      · split at h
        · obtain ⟨rfl, rfl⟩ := Prod.mk.inj (Except.ok.inj h)
          exact ⟨.refl way tree, hmade⟩
        · cases h

/-- No directory is made but at the places of a path and of those above it. -/
theorem LinkFree.paved_of_ancestors (hfree : tree.LinkFree)
    (h : ∀ ancestor ∈ ancestors path, way (tree.place ancestor)) :
    Paved way tree (tree.makeDirectories path).2 := by
  rw [makeDirectories]
  split
  · exact .refl _ tree
  · cases hmissing : tree.missing [] (ancestors path) with
    | error fault => exact .refl _ tree
    | ok found =>
        obtain ⟨hpaved, hrest⟩ :=
          hfree.paved_missing h (fun _ hmem => absurd hmem List.not_mem_nil) hmissing
        refine hpaved.trans ((hpaved.frame.linkFree hfree).paved_makeEach ?_)
        intro other hother
        rw [hpaved.frame.place]
        exact hrest other hother

theorem LinkFree.paved_makeDirectories (hfree : tree.LinkFree)
    (hparent : Path.dotDot ∉ path.segments) :
    Paved (· <+: tree.place path) tree (tree.makeDirectories path).2 :=
  hfree.paved_of_ancestors fun _ => place_of_mem_ancestors tree hparent

theorem LinkFree.last_eq_ok (hfree : tree.LinkFree) (h : tree.Leads path) :
    ∃ found, tree.last path = .ok found := by
  rw [last, h.accepted]
  cases hsegment : path.segments.getLast? with
  | none => exact ⟨_, rfl⟩
  | some segment =>
      obtain ⟨front, hsegments⟩ := List.getLast?_eq_some_iff.1 hsegment
      have hpassable := h.passable
      rw [steps, hsegments, List.append_assoc, passable_append] at hpassable
      obtain ⟨hfront, hdirectory, hlength, -⟩ := hpassable
      have hwalk : tree.walk linkLimit (tree.start path) (front ++ [Path.dot]) =
          .ok (resolve (tree.start path) front) := by
        refine hfree.walk_eq_ok_iff.2 ⟨passable_append.2 ⟨hfront, hdirectory, by decide, trivial⟩, ?_⟩
        rw [resolve_append, resolve_dot]
      have hparent : path.segments.dropLast = front := by rw [hsegments, List.dropLast_concat]
      simp only [bind, Except.bind, pure, Except.pure, hparent, hwalk]
      by_cases hdots : segment = Path.dot ∨ segment = Path.dotDot
      · exact ⟨.special (some segment), by simp [hdots]⟩
      · exact ⟨.name (resolve (tree.start path) front) segment, by simp [hdots, hlength]⟩

/-- After a path has been removed there is nothing at its place or below, and everything is elsewhere
as it was. -/
theorem LinkFree.get?_removeAll (hfree : tree.LinkFree) (hparent : Path.dotDot ∉ path.segments)
    (h : (tree.removeAll path).1 = .ok ()) (other : Location) :
    (tree.removeAll path).2.get? other =
      if tree.place path <+: other then none else tree.get? other := by
  rw [removeAll, hfree.linkAt?_eq_none] at h ⊢
  cases hfind : tree.find path with
  | error fault => simp [hfind] at h
  | ok found =>
      obtain ⟨location, entry⟩ := found
      obtain ⟨hleads, rfl, hentry⟩ := hfree.find_eq_ok_iff.1 hfind
      cases entry with
      | file contents => simp [hfind] at h
      | link target => simp [hfind] at h
      | directory =>
          simp only [hfind] at h ⊢
          have hframe := frame_clear tree (tree.place path)
          have hcleared : (tree.clear (tree.place path)).Leads path := by
            refine hleads.transfer hparent rfl ?_
            intro above habove hdirectory
            rw [get?_clear, if_neg, hdirectory]
            rw [isBelow_iff]
            rintro ⟨hne, hbelow⟩
            exact hne (hbelow.eq_of_length_le habove.length_le)
          obtain ⟨found, hlast⟩ := (hframe.linkFree hfree).last_eq_ok hcleared
          rw [removeEmpty, hlast] at h ⊢
          cases found with
          | special segment => simp at h
          | name parent name =>
              have hplace := (hframe.linkFree hfree).place_of_last hlast
              rw [hframe.place] at hplace
              have hself : isBelow (tree.place path) (tree.place path) = false := by
                simp [isBelow]
              have hstands : (tree.clear (tree.place path)).get? (parent ++ [name]) =
                  some .directory := by
                rw [← hplace, get?_clear, hself, if_neg Bool.false_ne_true, hentry]
              simp only [hstands]
              rw [get?_erase _ (by simp), ← hplace, get?_clear]
              by_cases hunder : tree.place path <+: other
              · rw [if_pos hunder]
                by_cases heq : other = tree.place path
                · rw [if_pos heq]
                · rw [if_neg heq, if_pos (isBelow_iff.2 ⟨Ne.symm heq, hunder⟩)]
              · have hne : other ≠ tree.place path := by
                  rintro rfl
                  exact hunder List.prefix_rfl
                have hbelow : ¬ isBelow (tree.place path) other = true := fun hbelow =>
                  hunder (isBelow_iff.1 hbelow).2
                rw [if_neg hunder, if_neg hne, if_neg hbelow]

end Tree

end ScriptPlugins
