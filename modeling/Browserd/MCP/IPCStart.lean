import Mathlib.Logic.Function.Basic
import Browserd.MCP.DescriptorRuns

/-!
# The start of the IPC transport

`MCPIPCTransport::Start` and `CreateListeningSocket` on a file system that no other process changes
meanwhile. Every system call may fail, and a start that fails leaves the path as it found it or
without a stale socket.
-/

namespace Browserd.Posix

open Function (update)

/-- What `connect` to a socket answers: zero, `ECONNREFUSED` or another error. -/
inductive SocketAnswer where
  | accepts
  | refuses
  | fails
  deriving DecidableEq

/-- What a path names; `own` is the socket that this start has bound. A socket that refuses a
connection is a stale one. -/
inductive FileEntry where
  | absent
  | file
  | directory
  | other
  | socket (answer : SocketAnswer)
  | own (listening : Bool)
  deriving DecidableEq

/-- The calls that a start makes, named apart where one function is called in several places. -/
inductive StartCall where
  | startThread
  | directoryExists
  | stat
  | lstat
  | probeSocket
  | connect
  | unlinkStale
  | socket
  | bind
  | chmod
  | listen
  | unlinkFailed
  | unlinkBound
  deriving DecidableEq

/-- The `st_mode` and `st_uid` of a file. -/
structure FileStat where
  mode : Nat
  uid : Nat

namespace FileStat

/-- `S_ISDIR`. -/
def isDirectory (st : FileStat) : Bool := st.mode &&& 0o170000 == 0o040000

/-- `S_IWGRP | S_IWOTH`. -/
def groupOrOtherWritable (st : FileStat) : Bool := st.mode &&& 0o022 != 0

end FileStat

/-- What the start finds: `FilePath::DirName`, `sizeof(sun_path)`, the effective user, the files
that are no part of the start, and the calls that fail for a reason of their own. -/
structure SocketHost where
  dirName : String → String
  sunPathSize : Nat
  euid : Nat
  stat : String → Option FileStat
  fails : StartCall → Bool

inductive SocketFd where
  | probe
  | listener
  deriving DecidableEq

/-- The files, the descriptors that are open and the members of the transport. -/
structure StartState where
  files : String → FileEntry
  openFds : List SocketFd
  listenerFd : Option SocketFd
  boundSocketPath : Option String
  stopping : Bool

/-- The path that a system call reads. -/
def cString (path : String) : String :=
  String.ofList (path.toList.takeWhile fun c => c ≠ Char.ofNat 0)

def isAbsolute (path : String) : Bool := (cString path).toList.head? == some '/'

namespace StartState

def ofFiles (files : String → FileEntry) : StartState where
  files := files
  openFds := []
  listenerFd := none
  boundSocketPath := none
  stopping := false

def openFd (fd : SocketFd) (s : StartState) : StartState :=
  { s with openFds := fd :: s.openFds }

def closeFd (fd : SocketFd) (s : StartState) : StartState :=
  { s with openFds := s.openFds.erase fd }

def put (path : String) (entry : FileEntry) (s : StartState) : StartState :=
  { s with files := update s.files (cString path) entry }

def unlink (path : String) (s : StartState) : StartState := s.put path .absent

end StartState

namespace SocketHost

variable (host : SocketHost)

def fillUnixAddress (path : String) : Bool :=
  !path.isEmpty && decide (path.utf8ByteSize < host.sunPathSize)

def isSafeParentDirectory (parent : String) : Bool :=
  match host.stat parent with
  | none => false
  | some st =>
      if host.fails .directoryExists || !st.isDirectory then false
      else if host.fails .stat then false
      else if !st.isDirectory then false
      else if st.uid ≠ host.euid then false
      else !st.groupOrOtherWritable

def connect (path : String) (s : StartState) : SocketAnswer :=
  if host.fails .connect then .fails
  else
    match s.files (cString path) with
    | .socket answer => answer
    | .own true => .accepts
    | _ => .refuses

/-- The second step of `ProbeExistingSocket`, for a socket. -/
def connectProbe (path : String) (s : StartState) : StartState × ExistingSocketState :=
  if !host.fillUnixAddress path then (s, .error)
  else if host.fails .probeSocket then (s, .error)
  else
    let s := s.openFd .probe
    let answer := host.connect path s
    let s := s.closeFd .probe
    match answer with
    | .accepts => (s, .active)
    | .refuses => (s, .stale)
    | .fails => (s, .error)

def probeExistingSocket (path : String) (s : StartState) : StartState × ExistingSocketState :=
  if host.fails .lstat then (s, .error)
  else
    match s.files (cString path) with
    | .absent => (s, .none)
    | .socket _ => host.connectProbe path s
    | .own _ => host.connectProbe path s
    | .file => (s, .invalid)
    | .directory => (s, .invalid)
    | .other => (s, .invalid)

/-- The end of `CreateListeningSocket`, once nothing is in the way. -/
def openListener (path : String) (s : StartState) : StartState × Option SocketFd :=
  if host.fails .socket then (s, none)
  else
    let s := s.openFd .listener
    if host.fails .bind || s.files (cString path) != .absent then (s.closeFd .listener, none)
    else
      let s := s.put path (.own false)
      -- A failure of `chmod` is only logged.
      if host.fails .listen then
        let s := s.closeFd .listener
        (if host.fails .unlinkFailed then s else s.unlink path, none)
      else (s.put path (.own true), some .listener)

def createListeningSocket (path : String) (s : StartState) : StartState × Option SocketFd :=
  if !isAbsolute path then (s, none)
  else if !host.isSafeParentDirectory (host.dirName (cString path)) then (s, none)
  else if !host.fillUnixAddress path then (s, none)
  else
    let (s, existing) := host.probeExistingSocket path s
    match existing with
    | .none => host.openListener path s
    | .stale =>
        if host.fails .unlinkStale then (s, none) else host.openListener path (s.unlink path)
    | .active => (s, none)
    | .invalid => (s, none)
    | .error => (s, none)

def requestStopLocked (s : StartState) : StartState :=
  let s :=
    match s.listenerFd with
    | some fd => { s.closeFd fd with listenerFd := none }
    | none => s
  match s.boundSocketPath with
  | none => s
  | some path =>
      let s := if host.fails .unlinkBound then s else s.unlink path
      { s with boundSocketPath := none }

/-- `Start`, with `RunLoop` up to its signal. -/
def start (path : String) (s : StartState) : StartState × Bool :=
  if path.isEmpty then (s, false)
  else if host.fails .startThread then (s, false)
  else
    let (s, listenerFd) := host.createListeningSocket path s
    match listenerFd with
    | none => (host.requestStopLocked { s with stopping := true }, false)
    | some fd => ({ s with listenerFd := some fd, boundSocketPath := some (cString path) }, true)

/-- The destructor of the transport. -/
def destroy (s : StartState) : StartState :=
  host.requestStopLocked { s with stopping := true }

end SocketHost

section Steps

variable {host : SocketHost} {path : String} {s : StartState}

@[simp] theorem StartState.closeFd_openFd (fd : SocketFd) : (s.openFd fd).closeFd fd = s := by
  simp [StartState.openFd, StartState.closeFd]

@[simp] theorem StartState.put_put (entry entry' : FileEntry) :
    (s.put path entry).put path entry' = s.put path entry' := by
  simp [StartState.put]

theorem StartState.put_absent (h : s.files (cString path) = .absent) : s.put path .absent = s := by
  rw [StartState.put, ← h, Function.update_eq_self]

/-- The probe leaves nothing open, and takes a socket for stale that refuses a connection. -/
theorem connectProbe_spec :
    (host.connectProbe path s).1 = s ∧ (host.connectProbe path s).2 ≠ .none ∧
      ((host.connectProbe path s).2 = .stale → host.connect path s = .refuses) := by
  have hconnect : host.connect path (s.openFd .probe) = host.connect path s := rfl
  simp only [SocketHost.connectProbe, StartState.closeFd_openFd, hconnect]
  split
  · simp
  split
  · simp
  · cases host.connect path s <;> simp

theorem probeExistingSocket_state : (host.probeExistingSocket path s).1 = s := by
  rw [SocketHost.probeExistingSocket]
  split
  · rfl
  · split
    case h_2 => exact connectProbe_spec.1
    case h_3 => exact connectProbe_spec.1
    all_goals rfl

theorem probeExistingSocket_stale (h : (host.probeExistingSocket path s).2 = .stale)
    (hown : ∀ listening, s.files (cString path) ≠ .own listening) :
    s.files (cString path) = .socket .refuses := by
  rw [SocketHost.probeExistingSocket] at h
  split at h
  · cases h
  · split at h
    case h_2 answer hentry =>
      have hrefuses := connectProbe_spec.2.2 h
      rw [SocketHost.connect, hentry] at hrefuses
      split at hrefuses
      · cases hrefuses
      · rw [hentry]
        exact congrArg FileEntry.socket hrefuses
    case h_3 listening hentry => exact absurd hentry (hown listening)
    all_goals cases h

/-- The three ends of `CreateListeningSocket` once nothing is in the way. -/
inductive Opened (host : SocketHost) (path : String) (s : StartState) :
    StartState × Option SocketFd → Prop
  | nothing : Opened host path s (s, none)
  | residue (listen : host.fails .listen = true) (unlink : host.fails .unlinkFailed = true) :
      Opened host path s (s.put path (.own false), none)
  | listening :
      Opened host path s ((s.openFd .listener).put path (.own true), some .listener)

theorem openListener_opened : Opened host path s (host.openListener path s) := by
  rw [SocketHost.openListener]
  split
  · exact .nothing
  simp only
  split
  · rw [StartState.closeFd_openFd]
    exact .nothing
  rename_i hbind
  have habsent : s.files (cString path) = .absent := by
    simp only [Bool.or_eq_true, bne_iff_ne, ne_eq, not_or, not_not] at hbind
    exact hbind.2
  have hclose : ((s.openFd .listener).put path (.own false)).closeFd .listener =
      s.put path (.own false) := by
    simp [StartState.openFd, StartState.closeFd, StartState.put]
  split
  · rename_i hlisten
    rw [hclose]
    split
    · rename_i hunlink
      exact .residue hlisten hunlink
    · rw [StartState.unlink, StartState.put_put, StartState.put_absent habsent]
      exact .nothing
  · rw [StartState.put_put]
    exact .listening

/-- The ends of `CreateListeningSocket`. -/
inductive Created (host : SocketHost) (path : String) (s : StartState) :
    StartState × Option SocketFd → Prop
  | nothing : Created host path s (s, none)
  | unlinked (stale : s.files (cString path) = .socket .refuses) :
      Created host path s (s.unlink path, none)
  | residue (listen : host.fails .listen = true) (unlink : host.fails .unlinkFailed = true) :
      Created host path s (s.put path (.own false), none)
  | listening (absolute : isAbsolute path = true) (fits : host.fillUnixAddress path = true)
      (safe : host.isSafeParentDirectory (host.dirName (cString path)) = true) :
      Created host path s ((s.openFd .listener).put path (.own true), some .listener)

theorem createListeningSocket_created
    (hown : ∀ listening, s.files (cString path) ≠ .own listening) :
    Created host path s (host.createListeningSocket path s) := by
  rw [SocketHost.createListeningSocket]
  by_cases habsolute : isAbsolute path = true
  · by_cases hsafe : host.isSafeParentDirectory (host.dirName (cString path)) = true
    · by_cases hfits : host.fillUnixAddress path = true
      · have hprobe : host.probeExistingSocket path s =
            (s, (host.probeExistingSocket path s).2) := Prod.ext probeExistingSocket_state rfl
        simp only [habsolute, hsafe, hfits, Bool.not_true, Bool.false_eq_true, if_false]
        rw [hprobe]
        cases hexisting : (host.probeExistingSocket path s).2 with
        | none =>
            have hopened : Opened host path s (host.openListener path s) := openListener_opened
            simp only
            generalize host.openListener path s = opened at hopened ⊢
            cases hopened with
            | nothing => exact .nothing
            | residue listen unlink => exact .residue listen unlink
            | listening => exact .listening habsolute hfits hsafe
        | stale =>
            have hstale := probeExistingSocket_stale hexisting hown
            simp only
            split
            · exact .nothing
            have hopened : Opened host path (s.unlink path)
                (host.openListener path (s.unlink path)) := openListener_opened
            generalize host.openListener path (s.unlink path) = opened at hopened ⊢
            have hput (entry : FileEntry) : (s.unlink path).put path entry = s.put path entry :=
              StartState.put_put _ _
            cases hopened with
            | nothing => exact .unlinked hstale
            | residue listen unlink =>
                rw [hput]
                exact .residue listen unlink
            | listening =>
                have hlistening : ((s.unlink path).openFd .listener).put path (.own true) =
                    (s.openFd .listener).put path (.own true) := by
                  simp [StartState.unlink, StartState.openFd, StartState.put]
                rw [hlistening]
                exact .listening habsolute hfits hsafe
        | active => exact .nothing
        | invalid => exact .nothing
        | error => exact .nothing
      · simp only [habsolute, hsafe, hfits, Bool.not_true, Bool.false_eq_true, if_false,
          Bool.not_false, if_true]
        exact .nothing
    · simp only [habsolute, hsafe, Bool.not_true, Bool.false_eq_true, if_false, Bool.not_false,
        if_true]
      exact .nothing
  · simp only [habsolute, Bool.not_false, if_true]
    exact .nothing

end Steps

/-- A start that failed has removed at most a stale socket, has left none of its own unless both
`listen` and the `unlink` after it failed, and has closed its descriptors. -/
structure LeftAlone (host : SocketHost) (path : String) (files : String → FileEntry)
    (s : StartState) : Prop where
  others : ∀ other, other ≠ cString path → s.files other = files other
  entry : s.files (cString path) = files (cString path) ∨
    (files (cString path) = .socket .refuses ∧ s.files (cString path) = .absent) ∨
    (s.files (cString path) = .own false ∧ host.fails .listen = true ∧
      host.fails .unlinkFailed = true)
  openFds : s.openFds = []

/-- The path is absolute and fits with its terminator, and it names the listening socket of this
start in a directory of the user that no one else can write. -/
structure Serves (host : SocketHost) (path : String) (s : StartState) : Prop where
  absolute : isAbsolute path = true
  fits : path.utf8ByteSize + 1 ≤ host.sunPathSize
  socket : s.files (cString path) = .own true
  openFds : s.openFds = [.listener]
  directory : ∃ st, host.stat (host.dirName (cString path)) = some st ∧ st.isDirectory = true ∧
    st.uid = host.euid ∧ st.groupOrOtherWritable = false

section Start

variable {host : SocketHost} {path : String} {files : String → FileEntry} {s : StartState}

theorem isSafeParentDirectory_iff {parent : String} :
    host.isSafeParentDirectory parent = true ↔
      host.fails .directoryExists = false ∧ host.fails .stat = false ∧
        ∃ st, host.stat parent = some st ∧ st.isDirectory = true ∧ st.uid = host.euid ∧
          st.groupOrOtherWritable = false := by
  cases hst : host.stat parent with
  | none => simp [SocketHost.isSafeParentDirectory, hst]
  | some st =>
      cases hexists : host.fails .directoryExists <;> cases hcall : host.fails .stat <;>
        cases hdirectory : st.isDirectory <;>
        simp [SocketHost.isSafeParentDirectory, hst, hexists, hcall, hdirectory]

/-- Without a socket of its own the transport has nothing to stop. -/
theorem requestStopLocked_none (hfd : s.listenerFd = none) (hpath : s.boundSocketPath = none) :
    host.requestStopLocked s = s := by
  simp [SocketHost.requestStopLocked, hfd, hpath]

theorem leftAlone_ofFiles : LeftAlone host path files (.ofFiles files) :=
  ⟨fun _ _ => rfl, .inl rfl, rfl⟩

theorem LeftAlone.stopping (h : LeftAlone host path files s) :
    LeftAlone host path files { s with stopping := true } :=
  ⟨h.others, h.entry, h.openFds⟩

/-- A transport whose start failed holds nothing. -/
structure Failed (host : SocketHost) (path : String) (files : String → FileEntry)
    (s : StartState) : Prop where
  leftAlone : LeftAlone host path files s
  listenerFd : s.listenerFd = none
  boundSocketPath : s.boundSocketPath = none

theorem Failed.requestStop (h : Failed host path files s) :
    Failed host path files (host.requestStopLocked { s with stopping := true }) := by
  have hstop : host.requestStopLocked { s with stopping := true } = { s with stopping := true } :=
    requestStopLocked_none h.listenerFd h.boundSocketPath
  rw [hstop]
  exact ⟨h.leftAlone.stopping, h.listenerFd, h.boundSocketPath⟩

theorem start_outcome (hown : ∀ other listening, files other ≠ .own listening) :
    ((host.start path (.ofFiles files)).2 = false ∧
        Failed host path files (host.start path (.ofFiles files)).1) ∨
      ((host.start path (.ofFiles files)).2 = true ∧
        Serves host path (host.start path (.ofFiles files)).1) := by
  have hfresh : Failed host path files (.ofFiles files) := ⟨leftAlone_ofFiles, rfl, rfl⟩
  rw [SocketHost.start]
  split
  · exact .inl ⟨rfl, hfresh⟩
  split
  · exact .inl ⟨rfl, hfresh⟩
  have hcreated : Created host path (.ofFiles files)
      (host.createListeningSocket path (.ofFiles files)) :=
    createListeningSocket_created (hown (cString path))
  generalize host.createListeningSocket path (.ofFiles files) = created at hcreated ⊢
  have hput (entry : FileEntry) (other : String) (hne : other ≠ cString path) :
      ((StartState.ofFiles files).put path entry).files other = files other :=
    Function.update_of_ne hne _ _
  have hself (entry : FileEntry) :
      ((StartState.ofFiles files).put path entry).files (cString path) = entry :=
    Function.update_self ..
  cases hcreated with
  | nothing => exact .inl ⟨rfl, hfresh.requestStop⟩
  | unlinked stale =>
      have hfailed : Failed host path files ((StartState.ofFiles files).unlink path) :=
        ⟨⟨hput .absent, .inr (.inl ⟨stale, hself .absent⟩), rfl⟩, rfl, rfl⟩
      exact .inl ⟨rfl, hfailed.requestStop⟩
  | residue listen unlink =>
      have hfailed : Failed host path files ((StartState.ofFiles files).put path (.own false)) :=
        ⟨⟨hput (.own false), .inr (.inr ⟨hself (.own false), listen, unlink⟩), rfl⟩, rfl, rfl⟩
      exact .inl ⟨rfl, hfailed.requestStop⟩
  | listening absolute fits safe =>
      have hdirectory := (isSafeParentDirectory_iff.mp safe).2.2
      refine .inr ⟨rfl, absolute, ?_, hself (.own true), rfl, hdirectory⟩
      simp only [SocketHost.fillUnixAddress, Bool.and_eq_true, decide_eq_true_eq] at fits
      omega

/-- A path is free if nothing is there, or a socket that is found to be stale and can be removed. -/
def Free (host : SocketHost) (path : String) (files : String → FileEntry) : Prop :=
  files (cString path) = .absent ∨
    (files (cString path) = .socket .refuses ∧
      ∀ call ∈ [StartCall.probeSocket, .connect, .unlinkStale], host.fails call = false)

/-- A socket can listen at the path: it is absolute, has room for its terminator, is in a directory
of the user that no one else can write, and is free, and the calls that are made succeed. -/
structure Listenable (host : SocketHost) (path : String) (files : String → FileEntry) : Prop where
  absolute : isAbsolute path = true
  fits : path.utf8ByteSize + 1 ≤ host.sunPathSize
  directory : ∃ st, host.stat (host.dirName (cString path)) = some st ∧ st.isDirectory = true ∧
    st.uid = host.euid ∧ st.groupOrOtherWritable = false
  free : Free host path files
  calls : ∀ call ∈ [StartCall.startThread, .directoryExists, .stat, .lstat, .socket, .bind,
    .listen], host.fails call = false

theorem openListener_isSome_iff :
    (host.openListener path s).2.isSome = true ↔
      s.files (cString path) = .absent ∧
        ∀ call ∈ [StartCall.socket, .bind, .listen], host.fails call = false := by
  have hfiles : (s.openFd .listener).files = s.files := rfl
  by_cases habsent : s.files (cString path) = .absent
  · cases hsocket : host.fails .socket <;> cases hbind : host.fails .bind <;>
      cases hlisten : host.fails .listen <;>
      simp [SocketHost.openListener, hfiles, habsent, hsocket, hbind, hlisten]
  · cases hsocket : host.fails .socket <;> simp [SocketHost.openListener, hfiles, habsent, hsocket]

/-- What the probe finds at a path that is no socket of this start. -/
theorem probeExistingSocket_free (hfits : host.fillUnixAddress path = true)
    (hown : ∀ listening, s.files (cString path) ≠ .own listening) :
    ((host.probeExistingSocket path s).2 = .none ↔
        host.fails .lstat = false ∧ s.files (cString path) = .absent) ∧
      ((host.probeExistingSocket path s).2 = .stale ↔
        host.fails .lstat = false ∧ s.files (cString path) = .socket .refuses ∧
          ∀ call ∈ [StartCall.probeSocket, .connect], host.fails call = false) := by
  have hfiles : (s.openFd .probe).files = s.files := rfl
  cases hlstat : host.fails .lstat with
  | true => simp [SocketHost.probeExistingSocket, hlstat]
  | false =>
      cases hentry : s.files (cString path) with
      | own listening => exact absurd hentry (hown listening)
      | socket answer =>
          cases hprobe : host.fails .probeSocket <;> cases hconnect : host.fails .connect <;>
            cases answer <;>
            simp [SocketHost.probeExistingSocket, SocketHost.connectProbe, SocketHost.connect,
              hfiles, hlstat, hentry, hprobe, hconnect, hfits]
      | _ => simp [SocketHost.probeExistingSocket, hlstat, hentry]

theorem createListeningSocket_isSome_iff
    (hown : ∀ listening, s.files (cString path) ≠ .own listening) :
    (host.createListeningSocket path s).2.isSome = true ↔
      isAbsolute path = true ∧
        host.isSafeParentDirectory (host.dirName (cString path)) = true ∧
        host.fillUnixAddress path = true ∧ Free host path s.files ∧
        ∀ call ∈ [StartCall.lstat, .socket, .bind, .listen], host.fails call = false := by
  rw [SocketHost.createListeningSocket]
  by_cases habsolute : isAbsolute path = true
  case neg => simp [habsolute]
  by_cases hsafe : host.isSafeParentDirectory (host.dirName (cString path)) = true
  case neg => simp [hsafe]
  by_cases hfits : host.fillUnixAddress path = true
  case neg => simp [hfits]
  obtain ⟨hnone, hstale⟩ := probeExistingSocket_free hfits hown
  have hprobe : host.probeExistingSocket path s = (s, (host.probeExistingSocket path s).2) :=
    Prod.ext probeExistingSocket_state rfl
  simp only [habsolute, hsafe, hfits, Bool.not_true, Bool.false_eq_true, if_false, true_and]
  rw [hprobe]
  cases hexisting : (host.probeExistingSocket path s).2 with
  | none =>
      obtain ⟨hlstat, habsent⟩ := hnone.mp hexisting
      simp only
      rw [openListener_isSome_iff]
      simp [Free, hlstat, habsent]
  | stale =>
      obtain ⟨hlstat, hrefuses, hcalls⟩ := hstale.mp hexisting
      have hunlinked : (s.unlink path).files (cString path) = .absent := Function.update_self ..
      have hprobed : host.fails .probeSocket = false := hcalls _ (by simp)
      have hconnected : host.fails .connect = false := hcalls _ (by simp)
      simp only
      cases hunlink : host.fails .unlinkStale with
      | true => simp [Free, hrefuses, hunlink]
      | false =>
          simp only [Bool.false_eq_true, if_false]
          rw [openListener_isSome_iff]
          simp [Free, hunlinked, hlstat, hrefuses, hprobed, hconnected, hunlink]
  | _ =>
      -- What is in the way is neither nothing nor a stale socket.
      rw [hexisting] at hnone hstale
      refine iff_of_false (by simp) ?_
      rintro ⟨habsent | ⟨hrefuses, hcalls⟩, hlater⟩
      · cases hnone.mpr ⟨hlater _ (by simp), habsent⟩
      · have hprobe : ∀ call ∈ [StartCall.probeSocket, .connect], host.fails call = false := by
          have hsub : [StartCall.probeSocket, .connect] ⊆
              [.probeSocket, .connect, .unlinkStale] := by decide
          exact fun call hcall => hcalls call (hsub hcall)
        cases hstale.mpr ⟨hlater _ (by simp), hrefuses, hprobe⟩

theorem start_succeeds_iff (hown : ∀ listening, files (cString path) ≠ .own listening) :
    (host.start path (.ofFiles files)).2 = true ↔ Listenable host path files := by
  have hcreated := @createListeningSocket_isSome_iff host path (.ofFiles files) hown
  have hstart : (host.start path (.ofFiles files)).2 = true ↔ path.isEmpty = false ∧
      host.fails .startThread = false ∧
      (host.createListeningSocket path (.ofFiles files)).2.isSome = true := by
    cases hempty : path.isEmpty with
    | true => simp [SocketHost.start, hempty]
    | false =>
        cases hthread : host.fails .startThread with
        | true => simp [SocketHost.start, hempty, hthread]
        | false =>
            simp only [SocketHost.start, hempty, hthread, Bool.false_eq_true, if_false, true_and]
            generalize host.createListeningSocket path (.ofFiles files) = created
            obtain ⟨s, listenerFd⟩ := created
            cases listenerFd <;> simp
  rw [hstart, hcreated, isSafeParentDirectory_iff]
  constructor
  · rintro ⟨-, hthread, habsolute, ⟨hexists, hstat, hdirectory⟩, hfits, hfree, hcalls⟩
    refine ⟨habsolute, ?_, hdirectory, hfree, ?_⟩
    · simp only [SocketHost.fillUnixAddress, Bool.and_eq_true, decide_eq_true_eq] at hfits
      omega
    · simpa [hthread, hexists, hstat] using hcalls
  · intro h
    have hsize : path.utf8ByteSize < host.sunPathSize := h.fits
    have hsome : path.isEmpty = false := by
      by_contra hempty
      have hnil : path = "" := by simpa using hempty
      exact absurd h.absolute (by rw [hnil]; decide)
    refine ⟨hsome, h.calls _ (by simp), h.absolute, ⟨h.calls _ (by simp), h.calls _ (by simp),
      h.directory⟩, by simp [SocketHost.fillUnixAddress, hsome, hsize], h.free, ?_⟩
    have hsub : [StartCall.lstat, .socket, .bind, .listen] ⊆
        [.startThread, .directoryExists, .stat, .lstat, .socket, .bind, .listen] := by decide
    exact fun call hcall => h.calls call (hsub hcall)

end Start

/-- Whatever is at the path and whichever calls fail, a start that fails leaves it alone, also once
the transport is gone; of the socket it made nothing is left if at most one call fails. One that
succeeds listens at the path. -/
theorem failedStart_leavesPathAlone (host : SocketHost) (path : String)
    (files : String → FileEntry) (hown : ∀ other listening, files other ≠ .own listening) :
    ((host.start path (.ofFiles files)).2 = false →
      LeftAlone host path files (host.start path (.ofFiles files)).1 ∧
        LeftAlone host path files (host.destroy (host.start path (.ofFiles files)).1) ∧
        ((∀ call call', host.fails call = true → host.fails call' = true → call = call') →
          ∀ other listening,
            (host.start path (.ofFiles files)).1.files other ≠ .own listening ∧
            (host.destroy (host.start path (.ofFiles files)).1).files other ≠ .own listening)) ∧
    ((host.start path (.ofFiles files)).2 = true →
      Serves host path (host.start path (.ofFiles files)).1) := by
  have hgone {s : StartState} (h : LeftAlone host path files s)
      (hsingle : ∀ call call', host.fails call = true → host.fails call' = true → call = call')
      (other : String) (listening : Bool) : s.files other ≠ .own listening := by
    by_cases hother : other = cString path
    · subst hother
      rcases h.entry with hsame | ⟨-, habsent⟩ | ⟨-, hlisten, hunlink⟩
      · rw [hsame]
        exact hown _ _
      · simp [habsent]
      · exact absurd (hsingle _ _ hlisten hunlink) (by decide)
    · rw [h.others other hother]
      exact hown _ _
  rcases @start_outcome host path files hown with ⟨hfalse, hfailed⟩ | ⟨htrue, hserves⟩
  · refine ⟨?_, fun htrue => absurd (hfalse.symm.trans htrue) Bool.false_ne_true⟩
    intro _
    have hdestroyed := hfailed.requestStop.leftAlone
    refine ⟨hfailed.leftAlone, hdestroyed, ?_⟩
    intro hsingle other listening
    exact ⟨hgone hfailed.leftAlone hsingle other listening,
      hgone hdestroyed hsingle other listening⟩
  · exact ⟨fun hfalse => absurd (hfalse.symm.trans htrue) Bool.false_ne_true, fun _ => hserves⟩

def shopSocketPath : String := "/run/shop/mcp.sock"

/-- A directory of the user with mode 0700, in which only `listen` fails. -/
def shopSocketHost : SocketHost where
  dirName _ := "/run/shop"
  sunPathSize := 108
  euid := 1000
  stat _ := some ⟨0o040700, 1000⟩
  fails call := call == .listen

def staleShopSocket : String → FileEntry :=
  fun path => if path = shopSocketPath then .socket .refuses else .absent

theorem failedStart_leavesPathAlone_sample :
    LeftAlone shopSocketHost shopSocketPath staleShopSocket
        (shopSocketHost.start shopSocketPath (.ofFiles staleShopSocket)).1 ∧
      (shopSocketHost.start shopSocketPath (.ofFiles staleShopSocket)).1.files shopSocketPath =
        .absent := by
  have hown : ∀ other listening, staleShopSocket other ≠ .own listening := by
    intro other listening
    rw [staleShopSocket]
    split <;> simp
  have hfalse : (shopSocketHost.start shopSocketPath (.ofFiles staleShopSocket)).2 = false := by
    decide +kernel
  have hfailed := (failedStart_leavesPathAlone shopSocketHost shopSocketPath staleShopSocket
    hown).1 hfalse
  exact ⟨hfailed.1, by decide +kernel⟩

end Browserd.Posix
