import Rulebound.Files
import Rulebound.Proofs.Table

/-!
# Files that grow

A file that was opened can be opened again with nothing changed: the folders on the way to it are
there, and they stay there while bytes are added to it. So bytes that are added one after another
stand in the file in that order.
-/

namespace Rulebound

theorem bind_eq_ok {ε α β : Type} {first : Except ε α} {next : α → Except ε β} {result : β} :
    (first >>= next) = .ok result ↔ ∃ value, first = .ok value ∧ next value = .ok result := by
  cases first with
  | error fault => exact ⟨nofun, fun ⟨_, h, _⟩ => nomatch h⟩
  | ok value => exact ⟨fun h => ⟨value, rfl, h⟩, fun ⟨_, h, hnext⟩ => Except.ok.inj h ▸ hnext⟩

namespace Files

variable {files later : Files} {place next : Place} {path : Path}

/-- Files after some were added to others: nothing is gone, and folders are still folders. -/
structure Grows (files later : Files) : Prop where
  folder : ∀ place, files.node? place = some .folder → later.node? place = some .folder
  present : ∀ place, (files.node? place).isSome → (later.node? place).isSome

theorem Grows.refl (files : Files) : Grows files files := ⟨fun _ h => h, fun _ h => h⟩

theorem Grows.trans {last : Files} (h : Grows files later) (hlast : Grows later last) :
    Grows files last :=
  ⟨fun place hplace => hlast.folder place (h.folder place hplace),
    fun place hplace => hlast.present place (h.present place hplace)⟩

/-! ## Putting a node -/

theorem node?_put (hdeep : place.depth ≠ 0) (node : Node) (other : Place) :
    (files.put place node).node? other =
      if place = other then some node else files.node? other := by
  have hnodes : (files.put place node).nodes = files.nodes.insert place node := by
    unfold put
    dsimp only
    split <;> rfl
  unfold node?
  rw [hnodes, Table.get?_insert]
  by_cases htop : other.depth = 0
  · have hne : place ≠ other := fun heq => hdeep (heq ▸ htop)
    rw [if_pos htop, if_pos htop, if_neg hne]
  · rw [if_neg htop, if_neg htop]

theorem depth_ne_zero {node : Option Node} (h : files.node? place = node)
    (hne : node ≠ some .folder) : place.depth ≠ 0 := by
  intro htop
  unfold node? at h
  rw [if_pos htop] at h
  exact hne h.symm

theorem grows_put {before : Option Node} (h : files.node? place = before)
    (hne : before ≠ some .folder) (node : Node) : Grows files (files.put place node) := by
  have hdeep := depth_ne_zero h hne
  constructor
  · intro other hother
    rw [node?_put hdeep]
    split
    · rename_i heq
      subst heq
      exact absurd (h.symm.trans hother) hne
    · exact hother
  · intro other hother
    rw [node?_put hdeep]
    split
    · rfl
    · exact hother

/-! ## The way to a place -/

theorem follow_grows {name : String} (hgrows : Grows files later)
    (h : files.follow place name = .ok next) : later.follow place name = .ok next := by
  unfold follow at h ⊢
  cases hnode : files.node? place with
  | none =>
      rw [hnode] at h
      exact nomatch h
  | some node =>
      cases node with
      | file bytes =>
          rw [hnode] at h
          exact nomatch h
      | folder =>
          rw [hnode] at h
          rw [hgrows.folder place hnode]
          exact h

theorem foldlM_follow_grows {names : List String} (hgrows : Grows files later)
    (h : names.foldlM files.follow place = .ok next) :
    names.foldlM later.follow place = .ok next := by
  induction names generalizing place with
  | nil => exact h
  | cons name names ih =>
      rw [List.foldlM_cons, bind_eq_ok] at h ⊢
      obtain ⟨through, hstep, hrest⟩ := h
      exact ⟨through, follow_grows hgrows hstep, ih hrest⟩

theorem locate_grows (hgrows : Grows files later) (h : files.locate path = .ok place) :
    later.locate path = .ok place := by
  unfold locate at h ⊢
  rw [bind_eq_ok] at h ⊢
  obtain ⟨start, hstart, hway⟩ := h
  exact ⟨start, hstart, foldlM_follow_grows hgrows hway⟩

/-- What making folders does: the folders that were there stay, and in files that keep those of the
result there is nothing left to make. -/
theorem makeFrom_spec {names : List String} {made : Nat} {after : Files}
    (h : makeFrom made files place names = .ok after) :
    Grows files after ∧ ∀ later again, Grows after later →
      makeFrom again later place names = .ok later := by
  induction names generalizing made files place with
  | nil =>
      obtain rfl := Except.ok.inj h
      exact ⟨.refl _, fun _ _ _ => rfl⟩
  | cons name names ih =>
      rw [makeFrom, bind_eq_ok] at h
      obtain ⟨next, hstep, h⟩ := h
      cases hnode : files.node? next with
      | none =>
          rw [hnode] at h
          dsimp only at h
          split at h
          · exact nomatch h
          · obtain ⟨hgrows, hagain⟩ := ih h
            have hbefore := grows_put hnode nofun .folder
            refine ⟨hbefore.trans hgrows, fun later again hlater => ?_⟩
            have hthere : later.node? next = some .folder := by
              refine hlater.folder next (hgrows.folder next ?_)
              rw [node?_put (depth_ne_zero hnode nofun), if_pos rfl]
            rw [makeFrom, bind_eq_ok]
            refine ⟨next, follow_grows (hbefore.trans (hgrows.trans hlater)) hstep, ?_⟩
            rw [hthere]
            exact hagain later again hlater
      | some node =>
          cases node with
          | file bytes =>
              rw [hnode] at h
              exact nomatch h
          | folder =>
              rw [hnode] at h
              obtain ⟨hgrows, hagain⟩ := ih h
              refine ⟨hgrows, fun later again hlater => ?_⟩
              have hthere := hlater.folder next (hgrows.folder next hnode)
              rw [makeFrom, bind_eq_ok]
              refine ⟨next, follow_grows (hgrows.trans hlater) hstep, ?_⟩
              rw [hthere]
              exact hagain later again hlater

theorem makeFolders_spec {after : Files} (h : files.makeFolders path = .ok after) :
    Grows files after ∧ ∀ later, Grows after later → later.makeFolders path = .ok later := by
  unfold makeFolders at h ⊢
  simp only [bind_eq_ok] at h ⊢
  obtain ⟨start, hstart, h⟩ := h
  cases hnode : files.node? start with
  | none =>
      rw [hnode] at h
      obtain ⟨hgrows, hagain⟩ := makeFrom_spec h
      have hbefore := grows_put hnode nofun .folder
      refine ⟨hbefore.trans hgrows, fun later hlater => ⟨start, hstart, ?_⟩⟩
      have hthere : later.node? start = some .folder := by
        refine hlater.folder start (hgrows.folder start ?_)
        rw [node?_put (depth_ne_zero hnode nofun), if_pos rfl]
      rw [hthere]
      exact hagain later 0 hlater
  | some node =>
      rw [hnode] at h
      obtain ⟨hgrows, hagain⟩ := makeFrom_spec h
      refine ⟨hgrows, fun later hlater => ⟨start, hstart, ?_⟩⟩
      have hthere := hlater.present start (hgrows.present start (by rw [hnode]; rfl))
      obtain ⟨found, hfound⟩ := Option.isSome_iff_exists.1 hthere
      rw [hfound]
      exact hagain later 0 hlater

/-! ## A file that grows -/

/-- A file with its bytes, in folders that need not be made again. -/
structure IsOpen (files : Files) (path : Path) (place : Place) (bytes : List UInt8) : Prop where
  folders : files.makeFolders path.parent = .ok files
  located : files.locate path = .ok place
  node : files.node? place = some (.file bytes)

theorem IsOpen.read {bytes : List UInt8} (h : IsOpen files path place bytes) :
    files.read path = .ok bytes := by
  unfold Files.read find
  rw [h.located]
  simp only [bind, Except.bind, h.node]

theorem IsOpen.appendTo {bytes : List UInt8} (h : IsOpen files path place bytes)
    (more : List UInt8) :
    ∃ after, files.appendTo path more = .ok after ∧ IsOpen after path place (bytes ++ more) := by
  have hgrows := grows_put h.node nofun (.file (bytes ++ more))
  refine ⟨files.put place (.file (bytes ++ more)), ?_, ?_, ?_, ?_⟩
  · unfold Files.appendTo
    rw [h.located]
    simp only [bind, Except.bind, h.node]
  · exact (makeFolders_spec h.folders).2 _ hgrows
  · exact locate_grows hgrows h.located
  · rw [node?_put (depth_ne_zero h.node nofun), if_pos rfl]

theorem IsOpen.create {bytes : List UInt8} (h : IsOpen files path place bytes) :
    ∃ opened, files.create path [] = .ok opened ∧ IsOpen opened path place bytes := by
  obtain ⟨opened, hopened, hagain⟩ := h.appendTo []
  rw [List.append_nil] at hagain
  refine ⟨opened, ?_, hagain⟩
  unfold Files.create
  rw [h.folders]
  exact hopened

theorem isOpen_put {made : Files} {before : Option Node} {bytes : List UInt8}
    (hfolders : files.makeFolders path.parent = .ok made) (hlocate : made.locate path = .ok place)
    (hbefore : made.node? place = before) (hne : before ≠ some .folder) :
    IsOpen (made.put place (.file bytes)) path place bytes := by
  have hgrows := grows_put hbefore hne (.file bytes)
  refine ⟨(makeFolders_spec hfolders).2 _ hgrows, locate_grows hgrows hlocate, ?_⟩
  rw [node?_put (depth_ne_zero hbefore hne), if_pos rfl]

theorem isOpen_of_create {opened : Files} {bytes : List UInt8}
    (hcreate : files.create path [] = .ok opened) (hread : opened.read path = .ok bytes) :
    ∃ place, IsOpen opened path place bytes := by
  have hsame : ∀ place found, IsOpen opened path place found → ∃ place,
      IsOpen opened path place bytes := by
    intro place found hopen
    obtain rfl := Except.ok.inj (hopen.read.symm.trans hread)
    exact ⟨place, hopen⟩
  unfold create at hcreate
  obtain ⟨made, hfolders, happend⟩ := bind_eq_ok.1 hcreate
  obtain ⟨place, hlocate, hput⟩ := bind_eq_ok.1 happend
  cases hnode : made.node? place with
  | none =>
      rw [hnode] at hput
      obtain rfl := Except.ok.inj hput
      exact hsame place [] (isOpen_put hfolders hlocate hnode nofun)
  | some node =>
      cases node with
      | folder =>
          rw [hnode] at hput
          exact nomatch hput
      | file before =>
          rw [hnode] at hput
          obtain rfl := Except.ok.inj hput
          exact hsame place _ (isOpen_put hfolders hlocate hnode nofun)

end Files

end Rulebound
