import Mathlib.Data.List.Infix
import Distvirt.Postgres.Protocol
import Distvirt.Runs

/-! The directories and files that a worker makes under names it was sent: an artifact that arrives
from another worker, and the files of a config volume. Of the file system only the symbolic links
matter here: they say where a path leads to. -/

namespace Distvirt.Worker

open List

/-- A text as its code points. -/
abbrev Name := List Nat

def slash : Nat := 0x2f

def dot : Name := [0x2e]

def dotDot : Name := [0x2e,0x2e]

/-- The components of a relative path. Empty ones and `.` do not count. -/
def components (path : Name) : List Name :=
  (path.splitOn slash).filter (fun c => c != [] && c != dot)

/-- Where a component leads to. -/
def enter (place : List Name) (component : Name) : List Name :=
  if component = dotDot then place.dropLast else place ++ [component]

def walk (place : List Name) (path : List Name) : List Name := path.foldl enter place

/-- A path as the components that are followed from a directory. -/
structure Path where
  base : List Name
  rest : List Name
deriving DecidableEq

/-- `Path::join`: an absolute path replaces the directory. -/
def join (root : List Name) (path : Name) : Path :=
  if path.head? = some slash then ⟨[],components path⟩ else ⟨root,components path⟩

def Path.parent (p : Path) : Path := { p with rest := p.rest.dropLast }

/-- The symbolic links, each with the text of its target. -/
abbrev Links := List Name → Option Name

/-- Follows a path to its end or to the first link, which leaves a target and the rest of the
path. -/
def untilLink (links : Links) (place : List Name) : List Name → List Name × Option (Name × List Name)
  | [] => (place,none)
  | c :: rest =>
    if c = dotDot then untilLink links place.dropLast rest
    else
      match links (place ++ [c]) with
      | some target => (place,some (target,rest))
      | none => untilLink links (place ++ [c]) rest

/-- Where a path leads to in so many links. -/
def follow (links : Links) (fuel : Nat) (place path : List Name) : Option (List Name) :=
  match untilLink links place path,fuel with
  | (place,none),_ => some place
  | (_,some _),0 => none
  | (place,some (target,rest)),fuel + 1 =>
    follow links fuel (join place target).base ((join place target).rest ++ rest)

/-- The kernel gives up after 40 links. -/
def Path.follow (p : Path) (links : Links) : Option (List Name) := Worker.follow links 40 p.base p.rest

/-- The entry that a path denotes, where this may be a link itself. -/
def Path.entry (p : Path) (links : Links) : Option (List Name) :=
  match p.rest.getLast? with
  | some c => (p.parent.follow links).map (enter · c)
  | none => some p.base

/-- A file or directory of an archive, or a link with its target. -/
abbrev ArchiveEntry := List Name × Option Name

inductive FsOp
  | createDirAll (path : Path)
  | unpack (path : Path) (entries : List ArchiveEntry)
  | removeDirAll (path : Path)
  | rename (source dest : Path)
  | write (path : Path)
  | setPermissions (path : Path) (mode : Nat)

namespace FsOp

/-- The places that an operation creates or changes. All directories on the way are created. -/
def touched (links : Links) : FsOp → List (List Name)
  | .createDirAll path => path.rest.inits.filterMap (fun rest => { path with rest }.entry links)
  | .unpack path _ | .write path | .setPermissions path _ => (path.follow links).toList
  | .removeDirAll path => (path.entry links).toList
  | .rename source dest => (source.entry links).toList ++ (dest.entry links).toList

/-- What becomes of the links. A tree that is moved takes its links with it. -/
def apply (links : Links) : FsOp → Links
  | .unpack path entries =>
    match path.follow links with
    | some place => entries.foldl (fun links e => Function.update links (place ++ e.1) e.2) links
    | none => links
  | .removeDirAll path =>
    match path.entry links with
    | some place => fun p => if place <+: p then none else links p
    | none => links
  | .rename source dest =>
    match source.entry links,dest.entry links with
    | some source,some dest => fun p =>
      if dest <+: p then links (source ++ p.drop dest.length)
      else if source <+: p then none else links p
    | _,_ => links
  | .createDirAll _ | .write _ | .setPermissions _ _ => links

end FsOp

structure IncomingTransfer where
  transferId : Nat
  sourceArtifactId : Name
  sourcePoolId : Name
  destArtifactId : Name
  destPoolId : Name

def transferMagic : List UInt8 := [0x44,0x56,0x58,0x46]

def transferVersion : UInt8 := 1

/-- A number in network byte order. -/
def readUint (bytes : List UInt8) : Nat := bytes.foldl (fun n b => n * 256 + b.toNat) 0

/-- The header of 22 bytes and the four names after it. -/
def readTransfer (bytes : List UInt8) : Option IncomingTransfer :=
  if bytes.length < 22 then none
  else if bytes.take 4 ≠ transferMagic then none
  else if bytes.getD 4 0 ≠ transferVersion then none
  else
    let length (i : Nat) := readUint ((bytes.drop (14 + 2 * i)).take 2)
    let text := bytes.drop 22
    if text.length < length 0 + length 1 + length 2 + length 3 then none
    else do
      let sourceArtifactId ← Postgres.fromUtf8 (text.take (length 0))
      let sourcePoolId ← Postgres.fromUtf8 ((text.drop (length 0)).take (length 1))
      let destArtifactId ← Postgres.fromUtf8 ((text.drop (length 0 + length 1)).take (length 2))
      let destPoolId ← Postgres.fromUtf8
        ((text.drop (length 0 + length 1 + length 2)).take (length 3))
      some ⟨readUint ((bytes.drop 6).take 8),sourceArtifactId,sourcePoolId,destArtifactId,destPoolId⟩

def partialSuffix : Name := [0x2e,0x70,0x61,0x72,0x74,0x69,0x61,0x6c]

/-- The name of the directory that an artifact is unpacked into. -/
def partialName (artifactId : Name) : Name := dot ++ artifactId ++ partialSuffix

/-- The entries that are unpacked, of the whole archive or up to an error. -/
structure Archive where
  entries : List ArchiveEntry
  complete : Bool

/-- What a received stream does to the file system. An operation that fails ends it. -/
def handleIncomingTransfer (pools : Name → Option (List Name)) (bytes : List UInt8)
    (archive : Archive) : List FsOp :=
  match readTransfer bytes with
  | none => []
  | some transfer =>
    match pools transfer.destPoolId with
    | none => []
    | some poolPath =>
      let destDir := join poolPath transfer.destArtifactId
      let tempDir := join poolPath (partialName transfer.destArtifactId)
      [.createDirAll tempDir,.unpack tempDir archive.entries,
        if archive.complete then .rename tempDir destDir else .removeDirAll tempDir]

structure ConfigDataFile where
  path : Name
  mode : Nat

def createConfigDataDir (tmpDir : List Name) (files : List ConfigDataFile) : List FsOp :=
  files.flatMap (fun file =>
    let filePath := join tmpDir (file.path.dropWhile (· == slash))
    [.createDirAll filePath.parent,.write filePath] ++
      if file.mode ≠ 0 then [.setPermissions filePath file.mode] else [])

/-- A path that goes above the directory it starts `depth` levels below. -/
def climbs : Nat → List Name → Bool
  | _,[] => false
  | depth,c :: rest =>
    if c = dotDot then
      match depth with
      | 0 => true
      | depth + 1 => climbs depth rest
    else climbs (depth + 1) rest

section
variable {place path : List Name}

/-- A path that does not climb stays inside, all the way. -/
theorem walk_stays (base : List Name) (h : climbs place.length path = false) (hpre : pre <+: path) :
    base <+: walk (base ++ place) pre := by
  induction path generalizing place pre with
  | nil =>
    cases prefix_nil.mp hpre
    exact prefix_append _ _
  | cons c rest ih =>
    cases pre with
    | nil => exact prefix_append _ _
    | cons c' pre =>
      obtain ⟨rfl,htail⟩ := cons_prefix_cons.mp hpre
      unfold climbs at h
      simp only [walk,foldl_cons,enter]
      split at h
      · rename_i hc
        rw [if_pos hc]
        cases place using reverseRecOn with
        | nil => exact nomatch h
        | append_singleton place name =>
          rw [length_append,length_singleton] at h
          rw [← append_assoc,dropLast_concat]
          exact ih h htail
      · rename_i hc
        rw [if_neg hc,append_assoc]
        exact ih (by rwa [length_append]) htail

theorem walk_new (hx : x ∉ place) (hpath : x ∉ path) : x ∉ walk place path := by
  induction path generalizing place with
  | nil => exact hx
  | cons c rest ih =>
    rw [mem_cons,not_or] at hpath
    apply ih _ hpath.2
    unfold enter
    split
    · exact fun h => hx (mem_of_mem_dropLast h)
    · intro h
      rcases mem_append.mp h with h | h
      · exact hx h
      · exact hpath.1 (mem_singleton.mp h)

/-- A path that climbs leaves a directory whose name it does not know. -/
theorem walk_leaves (h : climbs place.length path = true) (hx : x ∉ place) (hpath : x ∉ path) :
    x ∉ walk (x :: place) path := by
  induction path generalizing place with
  | nil => exact nomatch h
  | cons c rest ih =>
    rw [mem_cons,not_or] at hpath
    unfold climbs at h
    simp only [walk,foldl_cons,enter]
    split at h
    · rename_i hc
      rw [if_pos hc]
      cases place using reverseRecOn with
      | nil => exact walk_new nofun hpath.2
      | append_singleton place name =>
        rw [length_append,length_singleton] at h
        rw [← cons_append,dropLast_concat]
        exact ih h (fun hm => hx (mem_append_left _ hm)) hpath.2
    · rename_i hc
      rw [if_neg hc,cons_append]
      refine ih (by rwa [length_append]) (fun hm => ?_) hpath.2
      rcases mem_append.mp hm with hm | hm
      · exact hx hm
      · exact hpath.1 (mem_singleton.mp hm)

theorem exists_new (path : List Name) : ∃ x, x ∉ path := by
  refine ⟨0 :: path.flatten,fun h => ?_⟩
  have hle := (sublist_flatten_of_mem h).length_le
  rw [length_cons] at hle
  omega

end

theorem join_relative (h : path.head? ≠ some slash) :
    join root path = ⟨root,components path⟩ := if_neg h

theorem partialName_relative : (partialName artifactId).head? ≠ some slash := by
  simp [partialName,dot,slash]

theorem trimmed_relative {path : Name} : (path.dropWhile (· == slash)).head? ≠ some slash := by
  intro h
  have hnot := head?_dropWhile_not (· == slash) path
  rw [h] at hnot
  exact nomatch hnot

/-- The artifact goes where its name says, and this is inside. -/
def Safe (artifactId : Name) : Prop :=
  artifactId.head? ≠ some slash ∧ climbs 0 (components artifactId) = false ∧
    climbs 0 (components (partialName artifactId)) = false

instance (artifactId : Name) : Decidable (Safe artifactId) := inferInstanceAs (Decidable (_ ∧ _ ∧ _))

/-- A path that does not climb stays inside, as do the directories that are made for it. -/
theorem contained (h : climbs 0 rest = false) (hpre : pre <+: rest) : root <+: walk root pre := by
  have hwalk : root <+: walk (root ++ []) pre := walk_stays root h hpre
  rwa [append_nil] at hwalk

theorem not_contained {x : Name} {place : List Name} (hx : x ∉ place) : ¬ [x] <+: place :=
  fun h => hx (h.subset mem_cons_self)

/-- A path that climbs leaves the directory `x`. -/
theorem escapes (hc : climbs 0 rest = true) (hx : x ∉ rest) : ¬ [x] <+: walk [x] rest := by
  have hclimbs : climbs ([] : List Name).length rest = true := hc
  exact not_contained (walk_leaves hclimbs nofun hx)

/-- There is no link inside a directory. -/
def Free (root : List Name) (links : Links) : Prop := ∀ p, root <+: p → links p = none

theorem climbs_start (h : climbs depth path = false) (hpre : pre <+: path) :
    climbs depth pre = false := by
  induction path generalizing depth pre with
  | nil =>
    cases prefix_nil.mp hpre
    rfl
  | cons c rest ih =>
    cases pre with
    | nil => rfl
    | cons c' pre =>
      obtain ⟨rfl,htail⟩ := cons_prefix_cons.mp hpre
      unfold climbs at h ⊢
      split at h
      · rename_i hc
        rw [if_pos hc]
        cases depth with
        | zero => cases h
        | succ depth => exact ih h htail
      · rename_i hc
        rw [if_neg hc]
        exact ih h htail

/-- A path that meets no link is walked. -/
theorem untilLink_eq_walk (h : ∀ pre, pre <+: path → links (walk place pre) = none) :
    untilLink links place path = (walk place path,none) := by
  induction path generalizing place with
  | nil => rfl
  | cons c rest ih =>
    have hrest : ∀ pre, pre <+: rest → links (walk (enter place c) pre) = none :=
      fun pre hpre => h (c :: pre) (cons_prefix_cons.mpr ⟨rfl,hpre⟩)
    have hnone : links (enter place c) = none := hrest [] ( nil_prefix ..)
    have hnext := ih hrest
    unfold untilLink
    rw [walk,foldl_cons]
    unfold enter at hnone hnext ⊢
    split
    · rename_i hc
      rwa [if_pos hc] at hnext
    · rename_i hc
      rw [if_neg hc] at hnone hnext
      rw [hnone]
      exact hnext

theorem follow_eq_walk (h : ∀ pre, pre <+: path → links (walk place pre) = none) :
    follow links fuel place path = some (walk place path) := by
  rw [follow.eq_def,untilLink_eq_walk h]

theorem entry_eq_walk (h : ∀ pre, pre <+: rest → links (walk base pre) = none) :
    Path.entry ⟨base,rest⟩ links = some (walk base rest) := by
  cases rest using reverseRecOn with
  | nil => rfl
  | append_singleton rest c =>
    simp only [Path.entry,getLast?_concat,Path.parent,dropLast_concat,Path.follow]
    rw [follow_eq_walk (fun pre hpre => h pre (hpre.trans (prefix_append _ _)))]
    simp [walk]

section free
variable {links : Links} {root rest : List Name}

/-- No link is met by a path that stays inside. -/
theorem Free.walked (h : Free root links) (hc : climbs 0 rest = false) :
    ∀ pre, pre <+: rest → links (walk root pre) = none :=
  fun _ hpre => h _ (contained hc hpre)

theorem Free.follow (h : Free root links) (hc : climbs 0 rest = false) :
    Path.follow ⟨root,rest⟩ links = some (walk root rest) := follow_eq_walk (h.walked hc)

theorem Free.entry (h : Free root links) (hc : climbs 0 rest = false) :
    Path.entry ⟨root,rest⟩ links = some (walk root rest) := entry_eq_walk (h.walked hc)

/-- The directories that are made for a path are inside if it is. -/
theorem Free.created (h : Free root links) (hc : climbs 0 rest = false)
    (hp : p ∈ (FsOp.createDirAll ⟨root,rest⟩).touched links) : root <+: p := by
  obtain ⟨pre,hpre,hp⟩ := mem_filterMap.mp hp
  rw [mem_inits] at hpre
  rw [h.entry (climbs_start hc hpre)] at hp
  cases hp
  exact contained hc hpre

theorem Free.unpack (h : Free root links) (entries : List ArchiveEntry)
    (hplain : ∀ e ∈ entries, e.2 = none) (place : List Name) :
    Free root (entries.foldl (fun links e => Function.update links (place ++ e.1) e.2) links) := by
  refine foldlRecOn entries _ h (fun links hfree e he p hp => ?_)
  rw [Function.update_apply,hplain e he]
  split
  · rfl
  · exact hfree p hp

end free

/-- The archive has no symbolic links. -/
def Archive.Plain (archive : Archive) : Prop := ∀ e ∈ archive.entries, e.2 = none

/-- An operation that a stream with an archive does. -/
structure TransferOp where
  bytes : List UInt8
  archive : Archive
  op : FsOp

/-- The place is inside the pool that the stream names. -/
def InPool (pools : Name → Option (List Name)) (bytes : List UInt8) (p : List Name) : Prop :=
  ∃ transfer root, readTransfer bytes = some transfer ∧ pools transfer.destPoolId = some root ∧
    root <+: p

instance : Decidable (InPool pools bytes p) :=
  decidable_of_iff (((readTransfer bytes).bind (fun t => pools t.destPoolId)).any (· <+: p) = true)
    (by
      simp only [InPool,Option.any_eq_true,Option.bind_eq_some_iff,decide_eq_true_eq]
      constructor
      · rintro ⟨root,⟨transfer,ht,hroot⟩,hp⟩
        exact ⟨transfer,root,ht,hroot,hp⟩
      · rintro ⟨transfer,root,ht,hroot,hp⟩
        exact ⟨root,⟨transfer,ht,hroot⟩,hp⟩)

/-- Where the pools have no links at first, each place that a stream with such an archive touches is
inside the pool that it names, however the operations of the streams interleave. -/
def TransferContained (archives : Archive → Prop) (streams : List (List UInt8)) : Prop :=
  ∀ pools links, (∀ name root, pools name = some root → Free root links) →
    ∀ ops : List TransferOp, (∀ x ∈ ops, x.bytes ∈ streams ∧ archives x.archive ∧
      x.op ∈ handleIncomingTransfer pools x.bytes x.archive) →
    Runs.Along (fun links x => some (x.op.apply links))
      (fun links x => ∀ p ∈ x.op.touched links, InPool pools x.bytes p) links ops

theorem handled (h : op ∈ handleIncomingTransfer pools bytes archive) : ∃ transfer root,
    readTransfer bytes = some transfer ∧ pools transfer.destPoolId = some root ∧
    (op = .createDirAll (join root (partialName transfer.destArtifactId)) ∨
      op = .unpack (join root (partialName transfer.destArtifactId)) archive.entries ∨
      op = if archive.complete then .rename (join root (partialName transfer.destArtifactId))
          (join root transfer.destArtifactId)
        else .removeDirAll (join root (partialName transfer.destArtifactId))) := by
  unfold handleIncomingTransfer at h
  cases ht : readTransfer bytes with
  | none => simp [ht] at h
  | some transfer =>
    cases hroot : pools transfer.destPoolId with
    | none => simp [ht,hroot] at h
    | some root => exact ⟨transfer,root,rfl,hroot,by simpa [ht,hroot] using h⟩

/-- An operation under a safe name stays in its pool and leaves no link anywhere. -/
theorem safe_step (hsafe : ∀ transfer, readTransfer bytes = some transfer →
      Safe transfer.destArtifactId) (hplain : archive.Plain)
    (hfree : ∀ name root, pools name = some root → Free root links)
    (hop : op ∈ handleIncomingTransfer pools bytes archive) :
    (∀ p ∈ op.touched links, InPool pools bytes p) ∧
    ∀ name root, pools name = some root → Free root (op.apply links) := by
  obtain ⟨transfer,root,ht,hroot,hop⟩ := handled hop
  obtain ⟨hrelative,hdest,htemp⟩ := hsafe transfer ht
  have free := hfree _ root hroot
  rw [join_relative hrelative,join_relative partialName_relative] at hop
  have inPool : ∀ p, root <+: p → InPool pools bytes p := fun p hp => ⟨transfer,root,ht,hroot,hp⟩
  have hin : root <+: walk root (components (partialName transfer.destArtifactId)) :=
    contained htemp ( prefix_refl _)
  rcases hop with rfl | rfl | rfl
  · exact ⟨fun p hp => inPool p (free.created htemp hp),hfree⟩
  · simp only [FsOp.touched,FsOp.apply,free.follow htemp,Option.toList_some,mem_singleton,forall_eq]
    exact ⟨inPool _ hin,fun name root h => (hfree name root h).unpack _ hplain _⟩
  · split
    · simp only [FsOp.touched,FsOp.apply,free.entry htemp,free.entry hdest,Option.toList_some,
        cons_append,nil_append,mem_cons,not_mem_nil,or_false,forall_eq_or_imp,forall_eq]
      refine ⟨⟨inPool _ hin,inPool _ (contained hdest ( prefix_refl _))⟩,fun name root' h p hp => ?_⟩
      beta_reduce
      split
      · exact free _ (hin.trans (prefix_append _ _))
      · split
        · rfl
        · exact hfree name root' h p hp
    · simp only [FsOp.touched,FsOp.apply,free.entry htemp,Option.toList_some,mem_singleton,forall_eq]
      refine ⟨inPool _ hin,fun name root' h p hp => ?_⟩
      beta_reduce
      split
      · rfl
      · exact hfree name root' h p hp

/-- Without links every path is walked. -/
theorem entry_unlinked (path : Path) :
    path.entry (fun _ => none) = some (walk path.base path.rest) := entry_eq_walk (fun _ _ => rfl)

theorem transferContained_iff (streams : List (List UInt8)) :
    TransferContained Archive.Plain streams ↔ ∀ bytes ∈ streams, ∀ transfer,
      readTransfer bytes = some transfer → Safe transfer.destArtifactId := by
  constructor
  · intro h bytes hbytes transfer ht
    obtain ⟨x,hx⟩ := exists_new
      (components transfer.destArtifactId ++ components (partialName transfer.destArtifactId))
    rw [mem_append,not_or] at hx
    -- The pool's directory has a name that the path does not know.
    have inside : ∀ path ∈ [join [x] transfer.destArtifactId,
        join [x] (partialName transfer.destArtifactId)], [x] <+: walk path.base path.rest := by
      intro path hpath
      have halong := h (fun _ => some [x]) (fun _ => none) (fun _ _ _ _ _ => rfl) [⟨bytes,⟨[],true⟩,
        .rename (join [x] (partialName transfer.destArtifactId)) (join [x] transfer.destArtifactId)⟩]
        (by simp [hbytes,Archive.Plain,handleIncomingTransfer,ht])
      obtain ⟨_,root,_,hroot,hin⟩ := halong.1 (walk path.base path.rest) (by
        simp only [mem_cons,not_mem_nil,or_false] at hpath
        rcases hpath with rfl | rfl <;> simp [FsOp.touched,entry_unlinked])
      cases hroot
      exact hin
    have hrelative : transfer.destArtifactId.head? ≠ some slash := by
      intro habs
      have hin := inside _ mem_cons_self
      rw [join,if_pos habs] at hin
      exact not_contained (walk_new not_mem_nil hx.1) hin
    refine ⟨hrelative,?_,?_⟩ <;> rw [← Bool.not_eq_true] <;> intro hc
    · have hin := inside _ mem_cons_self
      rw [join_relative hrelative] at hin
      exact escapes hc hx.1 hin
    · have hin := inside _ (mem_cons_of_mem _ mem_cons_self)
      rw [join_relative partialName_relative] at hin
      exact escapes hc hx.2 hin
  · intro hsafe pools links hfree ops hops
    induction ops generalizing links with
    | nil => trivial
    | cons x ops ih =>
      obtain ⟨hbytes,hplain,hop⟩ := hops x mem_cons_self
      obtain ⟨htouched,hnext⟩ := safe_step (hsafe x.bytes hbytes) hplain hfree hop
      exact ⟨htouched,ih (x.op.apply links) hnext (fun x hx => hops x (mem_cons_of_mem _ hx))⟩

/-- Every place that the files of a config volume touch is inside its temporary directory. -/
def ConfigContained (files : List ConfigDataFile) : Prop :=
  ∀ tmpDir links, Free tmpDir links → ∀ op ∈ createConfigDataDir tmpDir files,
    ∀ p ∈ op.touched links, tmpDir <+: p

theorem configContained_iff (files : List ConfigDataFile) : ConfigContained files ↔
    ∀ file ∈ files, climbs 0 (components (file.path.dropWhile (· == slash))) = false := by
  constructor
  · intro h file hfile
    obtain ⟨x,hx⟩ := exists_new (components (file.path.dropWhile (· == slash)))
    rw [← Bool.not_eq_true]
    intro hc
    have hin := h [x] (fun _ => none) (fun _ _ => rfl)
      (.write (join [x] (file.path.dropWhile (· == slash))))
      (mem_flatMap.mpr ⟨file,hfile,by simp⟩) _
      (Option.mem_toList.mpr (follow_eq_walk (fun _ _ => rfl)))
    rw [join_relative trimmed_relative] at hin
    exact escapes hc hx hin
  · intro h tmpDir links hfree op hop p hp
    obtain ⟨file,hfile,hop⟩ := mem_flatMap.mp hop
    have hc := h file hfile
    rw [join_relative trimmed_relative] at hop
    generalize components (file.path.dropWhile (· == slash)) = rest at hop hc
    -- A file is written, or its mode is set, where its path leads to.
    have written : p ∈ (Path.follow ⟨tmpDir,rest⟩ links).toList → tmpDir <+: p := by
      rw [hfree.follow hc,Option.toList_some,mem_singleton]
      rintro rfl
      exact contained hc ( prefix_refl _)
    rcases mem_append.mp hop with hop | hop
    · simp only [mem_cons,not_mem_nil,or_false] at hop
      rcases hop with rfl | rfl
      · exact hfree.created (climbs_start hc ( dropLast_prefix _)) hp
      · exact written hp
    · split at hop
      · cases mem_singleton.mp hop
        exact written hp
      · cases hop

/-- Of archives without links, and of files, what is received stays inside exactly if no name
climbs. -/
theorem names_contained_iff (streams : List (List UInt8)) (files : List ConfigDataFile) :
    (TransferContained Archive.Plain streams ↔ ∀ bytes ∈ streams, ∀ transfer,
      readTransfer bytes = some transfer → Safe transfer.destArtifactId) ∧
    (ConfigContained files ↔
      ∀ file ∈ files, climbs 0 (components (file.path.dropWhile (· == slash))) = false) :=
  ⟨transferContained_iff streams,configContained_iff files⟩

/-- The stream of an artifact for the pool `p`. -/
def sampleStream (artifactId : List UInt8) : List UInt8 :=
  transferMagic ++ [1,0] ++ [0,0,0,0,0,0,0,1] ++ [0,1,0,1,0,.ofNat artifactId.length,0,1] ++
    [0x61,0x70] ++ artifactId ++ [0x70]

/-- The artifact `.evil` brings a link `link` to `/o`, and the next one is called `evil/link/x`: its
temporary directory is `.evil/link/x.partial`. -/
def linkStreams : List (List UInt8) :=
  [sampleStream [0x2e,0x65,0x76,0x69,0x6c],
    sampleStream [0x65,0x76,0x69,0x6c,0x2f,0x6c,0x69,0x6e,0x6b,0x2f,0x78]]

def linkArchive : Archive := ⟨[([[0x6c,0x69,0x6e,0x6b]],some [0x2f,0x6f])],true⟩

def linkPool (_ : Name) : Option (List Name) := some [[0x70]]

def linkOps : List TransferOp :=
  linkStreams.flatMap (fun bytes =>
    (handleIncomingTransfer linkPool bytes linkArchive).map (fun op => ⟨bytes,linkArchive,op⟩))

/-- An artifact `../x` lands beside the pool, and so does a config file `a/../../x`. With a link in
an archive, safe names are enough to leave the pool. -/
theorem climbing_names_escape :
    ¬ TransferContained Archive.Plain [sampleStream [0x2e,0x2e,0x2f,0x78]] ∧
    ¬ ConfigContained [⟨[0x61,0x2f,0x2e,0x2e,0x2f,0x2e,0x2e,0x2f,0x78],0⟩] ∧
    (∀ bytes ∈ linkStreams, ∀ transfer ∈ readTransfer bytes, Safe transfer.destArtifactId) ∧
    ¬ TransferContained (fun _ => True) linkStreams := by
  refine ⟨fun h => ?_,fun h => ?_,?_,fun h => ?_⟩
  · have hread : (readTransfer (sampleStream [0x2e,0x2e,0x2f,0x78])).map
        IncomingTransfer.destArtifactId = some [0x2e,0x2e,0x2f,0x78] := by decide +kernel
    obtain ⟨transfer,ht,hid⟩ := Option.map_eq_some_iff.mp hread
    have hsafe := (transferContained_iff _).mp h _ mem_cons_self transfer ht
    rw [hid] at hsafe
    exact absurd hsafe (by decide +kernel)
  · exact absurd ((configContained_iff _).mp h _ mem_cons_self) (by decide +kernel)
  · decide +kernel
  · have hops : ∀ x ∈ linkOps, x.bytes ∈ linkStreams ∧ True ∧
        x.op ∈ handleIncomingTransfer linkPool x.bytes x.archive := by
      simp only [linkOps,mem_flatMap,mem_map]
      rintro _ ⟨bytes,hbytes,op,hop,rfl⟩
      exact ⟨hbytes,trivial,hop⟩
    exact absurd (h linkPool (fun _ => none) (fun _ _ _ _ _ => rfl) linkOps hops) (by decide +kernel)

end Distvirt.Worker
