import Rulebound.Proofs.Files.Place

/-!
# What a change leaves alone

Making folders changes no file, and adding to a file changes no other. So what a file holds is
settled by what was added to it.
-/

namespace Rulebound

def Node.bytes? : Node → Option (List UInt8)
  | .file bytes => some bytes
  | .folder => none

namespace Files

variable {files after : Files} {place other : Place} {path : Path} {bytes more : List UInt8}

def fileAt? (files : Files) (place : Place) : Option (List UInt8) :=
  (files.node? place).bind Node.bytes?

def bytesAt (files : Files) (place : Place) : List UInt8 :=
  (files.fileAt? place).getD []

theorem fileAt?_of_node {node : Option Node} (h : files.node? place = node) :
    files.fileAt? place = node.bind Node.bytes? := by
  rw [fileAt?, h]

theorem fileAt?_eq_some : files.fileAt? place = some bytes ↔
    files.node? place = some (.file bytes) := by
  cases hnode : files.node? place with
  | none => simp [fileAt?_of_node hnode]
  | some node => cases node <;> simp [fileAt?_of_node hnode, Node.bytes?]

theorem bytesAt_empty (place : Place) : Files.bytesAt {} place = [] := by
  have hnode : Files.node? {} place = none ∨ Files.node? {} place = some .folder := by
    unfold node?
    split
    · exact .inr rfl
    · exact .inl rfl
  rcases hnode with hnone | hfolder
  · rw [bytesAt, fileAt?_of_node hnone]
    rfl
  · rw [bytesAt, fileAt?_of_node hfolder]
    rfl

theorem bytesAt_congr (h : after.fileAt? place = files.fileAt? place) :
    after.bytesAt place = files.bytesAt place := by
  rw [bytesAt, bytesAt, h]

theorem bytesAt_of_read (h : files.read path = .ok bytes) : files.bytesAt path.place = bytes := by
  obtain ⟨node, hfind, hread⟩ := bind_eq_ok.1 h
  rw [bytesAt, fileAt?_of_node (node?_of_find hfind)]
  cases node with
  | folder => contradiction
  | file here => exact Except.ok.inj hread

theorem IsOpen.of_grows (h : files.IsOpen path place bytes) (hgrows : Grows files after)
    (hfile : after.fileAt? place = some more) : after.IsOpen path place more where
  folders := (makeFolders_spec h.folders).2 after hgrows
  located := locate_grows hgrows h.located
  node := fileAt?_eq_some.1 hfile

/-! ## Making folders -/

theorem fileAt?_put_folder (h : files.node? place = none) (other : Place) :
    (files.put place .folder).fileAt? other = files.fileAt? other := by
  by_cases hplace : place = other
  · rw [← hplace, fileAt?_of_node h, fileAt?, node?_put (depth_ne_zero h nofun), if_pos rfl]
    rfl
  · exact fileAt?_of_node (by rw [node?_put (depth_ne_zero h nofun), if_neg hplace])

theorem fileAt?_makeFrom {names : List String} {made : Nat}
    (h : makeFrom made files place names = .ok after) (other : Place) :
    after.fileAt? other = files.fileAt? other := by
  induction names generalizing made files place with
  | nil => rw [Except.ok.inj h]
  | cons name names ih =>
      rw [makeFrom, bind_eq_ok] at h
      obtain ⟨next, -, h⟩ := h
      cases hnode : files.node? next with
      | none =>
          rw [hnode] at h
          dsimp only at h
          split at h
          · contradiction
          · rw [ih h, fileAt?_put_folder hnode]
      | some node =>
          cases node with
          | file bytes =>
              rw [hnode] at h
              contradiction
          | folder =>
              rw [hnode] at h
              exact ih h

theorem fileAt?_makeFolders (h : files.makeFolders path = .ok after) (other : Place) :
    after.fileAt? other = files.fileAt? other := by
  unfold makeFolders at h
  obtain ⟨start, -, h⟩ := bind_eq_ok.1 h
  cases hnode : files.node? start with
  | none =>
      rw [hnode] at h
      rw [fileAt?_makeFrom h, fileAt?_put_folder hnode]
  | some node =>
      rw [hnode] at h
      exact fileAt?_makeFrom h other

theorem node?_of_foldlM {names : List String} {folder : Place}
    (hway : names.foldlM files.follow place = .ok folder)
    (hfolder : files.node? folder = some .folder) : files.node? place = some .folder := by
  cases names with
  | nil => rwa [Except.ok.inj hway]
  | cons name names =>
      rw [List.foldlM_cons] at hway
      obtain ⟨next, hstep, -⟩ := bind_eq_ok.1 hway
      exact (follow_eq_ok hstep).1

theorem makeFrom_concat {names : List String} {name : String} {folder next : Place}
    (hway : names.foldlM files.follow place = .ok folder)
    (hfolder : files.node? folder = some .folder) (hstep : files.follow folder name = .ok next)
    (hnone : files.node? next = none) :
    makeFrom 0 files place (names ++ [name]) = .ok (files.put next .folder) := by
  induction names generalizing place with
  | nil =>
      obtain rfl := Except.ok.inj hway
      refine bind_eq_ok.2 ⟨next, hstep, ?_⟩
      rw [hnone]
      rfl
  | cons other names ih =>
      rw [List.foldlM_cons] at hway
      obtain ⟨through, hfirst, hrest⟩ := bind_eq_ok.1 hway
      refine bind_eq_ok.2 ⟨through, hfirst, ?_⟩
      rw [node?_of_foldlM hrest hfolder]
      exact ih hrest

/-- In a folder that is there, a new one can be made under a name that is not too long. -/
theorem makeFolders_concat {start : PathStart} {parts : List String} {name : String}
    {folder : Place} (hgood : (⟨start, parts ++ [name]⟩ : Path).IsGood)
    (hlocate : files.locate ⟨start, parts⟩ = .ok folder)
    (hfolder : files.node? folder = some .folder) (hshort : name.utf8ByteSize ≤ longestName)
    (hdots : name ≠ "..") (hnone : files.node? (folder.child name) = none) :
    files.makeFolders ⟨start, parts ++ [name]⟩ = .ok (files.put (folder.child name) .folder) := by
  unfold locate at hlocate
  obtain ⟨first, hstart, hway⟩ := bind_eq_ok.1 hlocate
  have hfirst : startOf ⟨start, parts ++ [name]⟩ = .ok first :=
    startOf_eq_ok.2 ⟨hgood, (startOf_eq_ok.1 hstart).2⟩
  refine bind_eq_ok.2 ⟨first, hfirst, ?_⟩
  rw [node?_of_foldlM hway hfolder]
  exact makeFrom_concat hway hfolder (follow_of_folder hfolder hshort hdots) hnone

/-! ## Adding to a file -/

theorem appendTo_eq_ok (h : files.appendTo path bytes = .ok after) :
    files.locate path = .ok path.place ∧ files.node? path.place ≠ some .folder ∧
      after = files.put path.place (.file (files.bytesAt path.place ++ bytes)) := by
  unfold appendTo at h
  obtain ⟨place, hlocate, h⟩ := bind_eq_ok.1 h
  obtain rfl := locate_eq_place hlocate
  cases hnode : files.node? path.place with
  | none =>
      rw [hnode] at h
      rw [bytesAt, fileAt?_of_node hnode]
      exact ⟨hlocate, nofun, (Except.ok.inj h).symm⟩
  | some node =>
      cases node with
      | folder =>
          rw [hnode] at h
          contradiction
      | file before =>
          rw [hnode] at h
          rw [bytesAt, fileAt?_of_node hnode]
          exact ⟨hlocate, nofun, (Except.ok.inj h).symm⟩

theorem grows_appendTo (h : files.appendTo path bytes = .ok after) : Grows files after := by
  obtain ⟨-, hnode, rfl⟩ := appendTo_eq_ok h
  exact grows_put rfl hnode _

theorem put_put (files : Files) (place : Place) (first last : List UInt8) :
    (files.put place (.file first)).put place (.file last) = files.put place (.file last) := by
  have hthere : ∀ nodes : Table Place Node,
      (nodes.insert place (.file first)).contains place = true := by
    intro nodes
    rw [Table.contains, Table.get?_insert, if_pos rfl]
    rfl
  unfold put
  cases files.nodes.contains place <;> simp [hthere, Table.insert_insert]

theorem fileAt?_appendTo (h : files.appendTo path bytes = .ok after) (other : Place) :
    after.fileAt? other =
      if path.place = other then some (files.bytesAt other ++ bytes) else files.fileAt? other := by
  obtain ⟨-, hnode, rfl⟩ := appendTo_eq_ok h
  have hdeep := depth_ne_zero rfl hnode
  by_cases hother : path.place = other
  · rw [if_pos hother, ← hother, fileAt?, node?_put hdeep, if_pos rfl]
    rfl
  · rw [if_neg hother]
    exact fileAt?_of_node (by rw [node?_put hdeep, if_neg hother])

theorem create_of_none (bytes : List UInt8)
    (hfolders : files.makeFolders path.parent = .ok files)
    (hlocate : files.locate path = .ok place) (hnone : files.node? place = none) :
    files.create path bytes = .ok (files.put place (.file bytes)) := by
  unfold create appendTo
  rw [hfolders]
  refine bind_eq_ok.2 ⟨files, rfl, bind_eq_ok.2 ⟨place, hlocate, ?_⟩⟩
  rw [hnone]

theorem grows_create (h : files.create path bytes = .ok after) : Grows files after := by
  obtain ⟨made, hmade, happend⟩ := bind_eq_ok.1 h
  exact (makeFolders_spec hmade).1.trans (grows_appendTo happend)

theorem fileAt?_create (h : files.create path bytes = .ok after) (other : Place) :
    after.fileAt? other =
      if path.place = other then some (files.bytesAt other ++ bytes) else files.fileAt? other := by
  obtain ⟨made, hmade, happend⟩ := bind_eq_ok.1 h
  rw [fileAt?_appendTo happend, fileAt?_makeFolders hmade,
    bytesAt_congr (fileAt?_makeFolders hmade other)]

theorem IsOpen.of_create (h : files.create path bytes = .ok after) :
    after.IsOpen path path.place (files.bytesAt path.place ++ bytes) := by
  obtain ⟨made, hmade, happend⟩ := bind_eq_ok.1 h
  obtain ⟨hlocate, hnode, rfl⟩ := appendTo_eq_ok happend
  rw [bytesAt_congr (fileAt?_makeFolders hmade _)]
  exact isOpen_put hmade hlocate rfl hnode

end Files

end Rulebound
