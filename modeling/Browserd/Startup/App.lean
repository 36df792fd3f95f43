import Browserd.Base.CommandLine
import Browserd.MCP.HttpAdmission
import Browserd.MCP.IPCStart

/-!
# The start of the application

`App::Start`: what the command line and the environment ask for, and the transports that run
afterwards. A process that goes on has all the transports it was asked for and no other; one that
gives up leaves the socket path alone. Its HTTP server acts on nothing that does not bear the token
of the environment.
-/

namespace Browserd

open Transition Posix

def kMcpHttpHostSwitch : String := "mcp-http-host"

def kMcpHttpPortSwitch : String := "mcp-http-port"

def kMcpIpcPathSwitch : String := "mcp-ipc-path"

def kMcpHttpTokenEnv : String := "BROWSERD_MCP_HTTP_TOKEN"

/-- `base::StringToUint`: an optional plus, then decimal digits, within the range of `unsigned`. -/
def stringToUint (s : String) : Option Nat :=
  let digits (ds : List Char) : Option Nat :=
    if ds.isEmpty || !ds.all Char.isDigit then none else some (Nat.ofDigitChars 10 ds 0)
  match s.toList with
  | '+' :: ds => (digits ds).bind fun n => if n < 2 ^ 32 then some n else none
  | ds => (digits ds).bind fun n => if n < 2 ^ 32 then some n else none

structure MCPHttpConfig where
  host : String
  port : UInt16
  token : String

/-- `MCPHttpConfig()`. -/
def MCPHttpConfig.empty : MCPHttpConfig := ⟨"", 0, ""⟩

structure MCPIPCConfig where
  path : String

def isAllowedHttpHost (host : String) : Bool :=
  host == "127.0.0.1" || host == "0.0.0.0" || host == "::1" || host == "::" ||
    equalsCaseInsensitiveASCII host "localhost"

/-- `getVar` is `base::Environment::GetVar`. -/
def getMCPHttpConfig (commandLine : CommandLine) (getVar : String → Option String) :
    Option MCPHttpConfig :=
  if !commandLine.hasSwitch kMcpHttpPortSwitch then none
  else
    let host := commandLine.getSwitchValueASCII kMcpHttpHostSwitch
    let host := if host.isEmpty then "127.0.0.1" else host
    if !isAllowedHttpHost host then some .empty
    else
      match stringToUint (commandLine.getSwitchValueASCII kMcpHttpPortSwitch) with
      | none => some .empty
      | some portValue =>
          if portValue > 65535 then some .empty
          else
            match getVar kMcpHttpTokenEnv with
            | none => some .empty
            | some token =>
                if token.isEmpty then some .empty else some ⟨host, portValue.toUInt16, token⟩

def getMCPIPCConfig (commandLine : CommandLine) : Option MCPIPCConfig :=
  if !commandLine.hasSwitch kMcpIpcPathSwitch then none
  else
    let path := commandLine.getSwitchValueASCII kMcpIpcPathSwitch
    if path.isEmpty then some ⟨""⟩ else some ⟨path⟩

def isInvalidHttpConfig (config : MCPHttpConfig) : Bool :=
  config.host.isEmpty || config.token.isEmpty

def isInvalidIPCConfig (config : MCPIPCConfig) : Bool := config.path.isEmpty

/-- The same list in `mcp_http_transport.cc`. -/
def isAllowedListenHost (host : String) : Bool :=
  host == "127.0.0.1" || host == "0.0.0.0" || host == "::1" || host == "::" ||
    equalsCaseInsensitiveASCII host "localhost"

def normalizeListenHost (host : String) : String :=
  if equalsCaseInsensitiveASCII host "localhost" then "127.0.0.1" else host

/-- What the start finds: whether the HTTP thread starts, where `ListenWithAddressAndPort` succeeds,
and the files. -/
structure AppHost where
  startsHttpThread : Bool
  listens : String → UInt16 → Bool
  socketHost : SocketHost

/-- The HTTP server once it listens. -/
structure HttpListener where
  address : String
  port : UInt16
  token : String

/-- The process: whether it has terminated itself, what the end of standard input does once the
stdio transport is started, and the other two transports. -/
structure App where
  terminated : Bool
  shutdownOnStdioClose : Option Bool
  http : Option HttpListener
  ipc : StartState

namespace App

/-- Before `Start`. -/
def ofFiles (files : String → FileEntry) : App where
  terminated := false
  shutdownOnStdioClose := none
  http := none
  ipc := .ofFiles files

/-- `base::Process::TerminateCurrentProcessImmediately`. -/
def terminate (app : App) : App := { app with terminated := true }

/-- `MCPHttpTransport::Start` and `StartOnHttpThread`. -/
def startHttpTransport (host : AppHost) (config : MCPHttpConfig) (app : App) : App × Bool :=
  if !isAllowedListenHost config.host then (app, false)
  else if !host.startsHttpThread then (app, false)
  else
    let listenHost := normalizeListenHost config.host
    if !host.listens listenHost config.port then (app, false)
    else ({ app with http := some ⟨listenHost, config.port, config.token⟩ }, true)

def startIPCTransport (host : AppHost) (path : String) (app : App) : App × Bool :=
  let (ipc, success) := host.socketHost.start path app.ipc
  ({ app with ipc := ipc }, success)

/-- The last step of `Start`. -/
def startIPC (host : AppHost) (ipcConfig : Option MCPIPCConfig) (app : App) : App :=
  match ipcConfig with
  | none => app
  | some config =>
      let (app, success) := app.startIPCTransport host config.path
      if success then app else app.terminate

/-- The transports other than stdio. -/
def startTransports (host : AppHost) (httpConfig : Option MCPHttpConfig)
    (ipcConfig : Option MCPIPCConfig) (app : App) : App :=
  match httpConfig with
  | none => app.startIPC host ipcConfig
  | some config =>
      let (app, success) := app.startHttpTransport host config
      if success then app.startIPC host ipcConfig else app.terminate

def start (host : AppHost) (commandLine : CommandLine) (getVar : String → Option String)
    (app : App) : App :=
  let httpConfig := getMCPHttpConfig commandLine getVar
  if httpConfig.any isInvalidHttpConfig then app.terminate
  else
    let ipcConfig := getMCPIPCConfig commandLine
    if ipcConfig.any isInvalidIPCConfig then app.terminate
    else
      let hasNonStdioTransport := httpConfig.isSome || ipcConfig.isSome
      let app := { app with shutdownOnStdioClose := some !hasNonStdioTransport }
      app.startTransports host httpConfig ipcConfig

end App

/-- The configuration that the switches and the environment ask for. -/
structure AsksHttp (commandLine : CommandLine) (getVar : String → Option String)
    (config : MCPHttpConfig) : Prop where
  host : config.host = commandLine.getSwitchValueASCII kMcpHttpHostSwitch ∨
    (commandLine.getSwitchValueASCII kMcpHttpHostSwitch = "" ∧ config.host = "127.0.0.1")
  allowed : isAllowedHttpHost config.host = true
  port : stringToUint (commandLine.getSwitchValueASCII kMcpHttpPortSwitch) =
    some config.port.toNat
  token : getVar kMcpHttpTokenEnv = some config.token
  secret : config.token ≠ ""

section Configuration

variable {commandLine : CommandLine} {getVar : String → Option String} {config : MCPHttpConfig}

theorem isAllowedHttpHost_nonempty {host : String} (h : isAllowedHttpHost host = true) :
    host ≠ "" := by
  intro hempty
  rw [hempty] at h
  revert h
  decide

theorem isAllowedHttpHost_cases {host : String} (h : isAllowedHttpHost host = true) :
    normalizeListenHost host ∈ ["127.0.0.1", "0.0.0.0", "::1", "::"] := by
  rw [normalizeListenHost]
  split
  · exact List.mem_cons_self
  · rename_i hlocalhost
    simp only [isAllowedHttpHost, Bool.or_eq_true, beq_iff_eq, hlocalhost, or_false,
      Bool.false_eq_true] at h
    simpa [or_assoc] using h

theorem toNat_toUInt16 {n : Nat} (h : ¬ n > 65535) : n.toUInt16.toNat = n := by
  rw [UInt16.toNat_ofNat']
  omega

/-- The configuration is missing without the switch; otherwise it is what is asked for, or it is
invalid and nothing valid is asked for. -/
theorem getMCPHttpConfig_spec :
    (commandLine.hasSwitch kMcpHttpPortSwitch = false ∧
        getMCPHttpConfig commandLine getVar = none) ∨
      (commandLine.hasSwitch kMcpHttpPortSwitch = true ∧
        ((getMCPHttpConfig commandLine getVar = some .empty ∧
            ∀ config, ¬ AsksHttp commandLine getVar config) ∨
          ∃ config, getMCPHttpConfig commandLine getVar = some config ∧
            AsksHttp commandLine getVar config)) := by
  by_cases hswitch : commandLine.hasSwitch kMcpHttpPortSwitch = true
  case neg =>
    refine .inl ⟨by simpa using hswitch, ?_⟩
    simp [getMCPHttpConfig, hswitch]
  refine .inr ⟨hswitch, ?_⟩
  rw [getMCPHttpConfig]
  simp only [hswitch, Bool.not_true, Bool.false_eq_true, if_false]
  generalize hvalue : commandLine.getSwitchValueASCII kMcpHttpHostSwitch = value
  generalize hhost : (if value.isEmpty then "127.0.0.1" else value) = host
  -- Whatever is asked for has this host.
  have hasked {config : MCPHttpConfig} (h : AsksHttp commandLine getVar config) :
      config.host = host := by
    rcases h.host with heq | ⟨hempty, hdefault⟩
    · rw [hvalue] at heq
      have hne : value ≠ "" := heq ▸ isAllowedHttpHost_nonempty h.allowed
      rw [← hhost, if_neg (by simpa using hne), heq]
    · rw [hvalue] at hempty
      rw [← hhost, hempty, hdefault]
      rfl
  by_cases hallowed : isAllowedHttpHost host = true
  case neg =>
    refine .inl ⟨by simp [hallowed], ?_⟩
    intro config h
    exact hallowed (hasked h ▸ h.allowed)
  cases hport : stringToUint (commandLine.getSwitchValueASCII kMcpHttpPortSwitch) with
  | none =>
      refine .inl ⟨by simp [hallowed], ?_⟩
      intro config h
      exact absurd (hport.symm.trans h.port) (by simp)
  | some portValue =>
      by_cases hrange : portValue > 65535
      · refine .inl ⟨by simp [hallowed, hrange], ?_⟩
        intro config h
        obtain rfl : portValue = config.port.toNat := Option.some.inj (hport.symm.trans h.port)
        have := config.port.toNat_lt
        omega
      · cases htoken : getVar kMcpHttpTokenEnv with
        | none =>
            refine .inl ⟨by simp [hallowed, hrange], ?_⟩
            intro config h
            exact absurd (htoken.symm.trans h.token) (by simp)
        | some token =>
            by_cases hsecret : token = ""
            · refine .inl ⟨by simp [hallowed, hrange, hsecret], ?_⟩
              intro config h
              exact h.secret (Option.some.inj (h.token.symm.trans htoken) |>.trans hsecret)
            · refine .inr ⟨⟨host, portValue.toUInt16, token⟩, by simp [hallowed, hrange, hsecret],
                ?_, hallowed, ?_, htoken, hsecret⟩
              · rw [hvalue]
                by_cases hempty : value = ""
                · refine .inr ⟨hempty, ?_⟩
                  rw [← hhost, hempty]
                  rfl
                · refine .inl ?_
                  rw [← hhost, if_neg (by simpa using hempty)]
              · rw [hport, toNat_toUInt16 hrange]

theorem AsksHttp.valid (h : AsksHttp commandLine getVar config) :
    isInvalidHttpConfig config = false := by
  simp [isInvalidHttpConfig, isAllowedHttpHost_nonempty h.allowed, h.secret]

theorem AsksHttp.unique {other : MCPHttpConfig} (h : AsksHttp commandLine getVar config)
    (hother : AsksHttp commandLine getVar other) : config = other := by
  have hhost : config.host = other.host := by
    rcases h.host with heq | ⟨hempty, hdefault⟩ <;>
      rcases hother.host with heq' | ⟨hempty', hdefault'⟩
    · rw [heq, heq']
    · exact absurd (heq.trans hempty') (isAllowedHttpHost_nonempty h.allowed)
    · exact absurd (heq'.trans hempty) (isAllowedHttpHost_nonempty hother.allowed)
    · rw [hdefault, hdefault']
  have hport : config.port = other.port :=
    UInt16.toNat_inj.mp (Option.some.inj (h.port.symm.trans hother.port))
  have htoken : config.token = other.token := Option.some.inj (h.token.symm.trans hother.token)
  cases config
  cases other
  simp_all

theorem getMCPIPCConfig_spec :
    getMCPIPCConfig commandLine = if commandLine.hasSwitch kMcpIpcPathSwitch then
      some ⟨commandLine.getSwitchValueASCII kMcpIpcPathSwitch⟩ else none := by
  by_cases hswitch : commandLine.hasSwitch kMcpIpcPathSwitch = true
  · by_cases hempty : commandLine.getSwitchValueASCII kMcpIpcPathSwitch = ""
    · simp [getMCPIPCConfig, hswitch, hempty]
    · simp [getMCPIPCConfig, hswitch, hempty]
  · simp [getMCPIPCConfig, hswitch]

end Configuration

/-- An HTTP server of this host that was asked for. -/
structure ServesHttp (host : AppHost) (commandLine : CommandLine) (getVar : String → Option String)
    (listener : HttpListener) : Prop where
  asked : ∃ config, AsksHttp commandLine getVar config ∧
    listener = ⟨normalizeListenHost config.host, config.port, config.token⟩
  thread : host.startsHttpThread = true
  listens : host.listens listener.address listener.port = true

/-- Everything that was asked for can be had. -/
structure App.CanStart (host : AppHost) (commandLine : CommandLine)
    (getVar : String → Option String) (files : String → FileEntry) : Prop where
  http : commandLine.hasSwitch kMcpHttpPortSwitch = true →
    ∃ listener, ServesHttp host commandLine getVar listener
  ipc : commandLine.hasSwitch kMcpIpcPathSwitch = true →
    Listenable host.socketHost (commandLine.getSwitchValueASCII kMcpIpcPathSwitch) files

/-- A process that goes on has what was asked for. The end of standard input ends it only if
nothing else can reach it. -/
structure App.Started (host : AppHost) (commandLine : CommandLine) (getVar : String → Option String)
    (files : String → FileEntry) (app : App) : Prop where
  stdio : app.shutdownOnStdioClose =
    some !(commandLine.hasSwitch kMcpHttpPortSwitch || commandLine.hasSwitch kMcpIpcPathSwitch)
  http : app.http.isSome = commandLine.hasSwitch kMcpHttpPortSwitch
  listener : ∀ listener, app.http = some listener → ServesHttp host commandLine getVar listener ∧
    listener.address ∈ ["127.0.0.1", "0.0.0.0", "::1", "::"]
  ipc : commandLine.hasSwitch kMcpIpcPathSwitch = true →
    Serves host.socketHost (commandLine.getSwitchValueASCII kMcpIpcPathSwitch) app.ipc
  noIPC : commandLine.hasSwitch kMcpIpcPathSwitch = false → app.ipc = .ofFiles files

/-- The switches and the environment ask for something that is not a configuration. -/
def App.Misconfigured (commandLine : CommandLine) (getVar : String → Option String) : Prop :=
  (commandLine.hasSwitch kMcpHttpPortSwitch = true ∧
      ∀ config, ¬ AsksHttp commandLine getVar config) ∨
    (commandLine.hasSwitch kMcpIpcPathSwitch = true ∧
      commandLine.getSwitchValueASCII kMcpIpcPathSwitch = "")

/-- A process that gives up leaves the socket path alone, and opens nothing at all if it is
misconfigured. -/
structure App.GivenUp (host : AppHost) (commandLine : CommandLine) (getVar : String → Option String)
    (files : String → FileEntry) (app : App) : Prop where
  leftAlone : LeftAlone host.socketHost (commandLine.getSwitchValueASCII kMcpIpcPathSwitch) files
    app.ipc
  untouched : App.Misconfigured commandLine getVar → app = (App.ofFiles files).terminate

section Start

variable {host : AppHost} {commandLine : CommandLine} {getVar : String → Option String}
  {files : String → FileEntry} {app : App}

/-- What the start makes of a state: exactly one of the two ends, by what can be had. -/
structure App.Outcome (host : AppHost) (commandLine : CommandLine) (getVar : String → Option String)
    (files : String → FileEntry) (app : App) : Prop where
  terminated_iff : app.terminated = false ↔ App.CanStart host commandLine getVar files
  started : app.terminated = false → App.Started host commandLine getVar files app
  givenUp : app.terminated = true → App.GivenUp host commandLine getVar files app

theorem App.Outcome.misconfigured (h : App.Misconfigured commandLine getVar) :
    App.Outcome host commandLine getVar files (App.ofFiles files).terminate where
  terminated_iff := by
    refine ⟨fun hrunning => Bool.noConfusion hrunning, fun hcan => ?_⟩
    rcases h with ⟨hswitch, hnone⟩ | ⟨hswitch, hempty⟩
    · obtain ⟨listener, hserves⟩ := hcan.http hswitch
      obtain ⟨config, hasks, -⟩ := hserves.asked
      exact absurd hasks (hnone config)
    · have habsolute := (hcan.ipc hswitch).absolute
      rw [hempty] at habsolute
      exact absurd habsolute (by decide)
  started hrunning := Bool.noConfusion hrunning
  givenUp _ := ⟨leftAlone_ofFiles, fun _ => rfl⟩

/-- The transports other than IPC are up: what is left is decided by the socket. -/
theorem App.Outcome.ofIPC (hown : ∀ other listening, files other ≠ .own listening)
    (hrunning : app.terminated = false) (hfiles : app.ipc = .ofFiles files)
    (hstdio : app.shutdownOnStdioClose =
      some !(commandLine.hasSwitch kMcpHttpPortSwitch || commandLine.hasSwitch kMcpIpcPathSwitch))
    (hhttp : app.http.isSome = commandLine.hasSwitch kMcpHttpPortSwitch)
    (hlistener : ∀ listener, app.http = some listener →
      ServesHttp host commandLine getVar listener ∧
        listener.address ∈ ["127.0.0.1", "0.0.0.0", "::1", "::"])
    (hconfigured : ¬ App.Misconfigured commandLine getVar) :
    App.Outcome host commandLine getVar files
      (app.startIPC host (getMCPIPCConfig commandLine)) := by
  have hcanHttp (hswitch : commandLine.hasSwitch kMcpHttpPortSwitch = true) :
      ∃ listener, ServesHttp host commandLine getVar listener := by
    obtain ⟨listener, hsome⟩ := Option.isSome_iff_exists.mp (hhttp.trans hswitch)
    exact ⟨listener, (hlistener listener hsome).1⟩
  rw [getMCPIPCConfig_spec]
  by_cases hswitch : commandLine.hasSwitch kMcpIpcPathSwitch = true
  case neg =>
    have hno : commandLine.hasSwitch kMcpIpcPathSwitch = false := by simpa using hswitch
    rw [if_neg hswitch, App.startIPC]
    refine ⟨⟨fun _ => ⟨hcanHttp, fun h => absurd h hswitch⟩, fun _ => hrunning⟩, fun _ => ?_,
      fun h => absurd (hrunning.symm.trans h) Bool.false_ne_true⟩
    exact ⟨hstdio, hhttp, hlistener, fun h => absurd h hswitch, fun _ => hfiles⟩
  rw [if_pos hswitch]
  generalize hpath : commandLine.getSwitchValueASCII kMcpIpcPathSwitch = path
  have houtcome := @start_outcome host.socketHost path files hown
  have hlistenable := @start_succeeds_iff host.socketHost path files (hown (cString path))
  simp only [App.startIPC, App.startIPCTransport, hfiles]
  rcases houtcome with ⟨hfailed, hleft⟩ | ⟨hsuccess, hserves⟩
  · simp only [hfailed, Bool.false_eq_true, if_false]
    refine ⟨⟨fun h => Bool.noConfusion h, fun hcan => ?_⟩, fun h => Bool.noConfusion h, fun _ => ?_⟩
    · have hstart := hcan.ipc hswitch
      rw [hpath] at hstart
      exact absurd (hfailed.symm.trans (hlistenable.mpr hstart)) Bool.false_ne_true
    · refine ⟨?_, fun h => absurd h hconfigured⟩
      rw [hpath]
      exact hleft.leftAlone
  · simp only [hsuccess, if_true]
    refine ⟨⟨fun _ => ⟨hcanHttp, fun _ => ?_⟩, fun _ => hrunning⟩, fun _ => ?_,
      fun h => absurd (hrunning.symm.trans h) Bool.false_ne_true⟩
    · rw [hpath]
      exact hlistenable.mp hsuccess
    · refine ⟨hstdio, hhttp, hlistener, fun _ => ?_,
        fun hno => absurd (hswitch.symm.trans hno) Bool.false_ne_true.symm⟩
      rw [hpath]
      exact hserves

/-- The configuration that is asked for decides where the HTTP server listens. -/
theorem ServesHttp.of_asks {config : MCPHttpConfig} {listener : HttpListener}
    (h : AsksHttp commandLine getVar config)
    (hserves : ServesHttp host commandLine getVar listener) :
    listener = ⟨normalizeListenHost config.host, config.port, config.token⟩ := by
  obtain ⟨other, hother, heq⟩ := hserves.asked
  rw [heq, h.unique hother]

theorem startHttpTransport_spec {config : MCPHttpConfig} (h : AsksHttp commandLine getVar config) :
    (app.startHttpTransport host config = (app, false) ∧
        ∀ listener, ¬ ServesHttp host commandLine getVar listener) ∨
      ∃ listener, app.startHttpTransport host config = ({ app with http := some listener }, true) ∧
        ServesHttp host commandLine getVar listener ∧
        listener.address ∈ ["127.0.0.1", "0.0.0.0", "::1", "::"] := by
  have hallowed : isAllowedListenHost config.host = true := h.allowed
  rw [App.startHttpTransport]
  simp only [hallowed, Bool.not_true, Bool.false_eq_true, if_false]
  by_cases hthread : host.startsHttpThread = true
  · by_cases hlistens : host.listens (normalizeListenHost config.host) config.port = true
    · refine .inr ⟨⟨normalizeListenHost config.host, config.port, config.token⟩, ?_,
        ⟨⟨config, h, rfl⟩, hthread, hlistens⟩, isAllowedHttpHost_cases h.allowed⟩
      simp [hthread, hlistens]
    · refine .inl ⟨by simp [hthread, hlistens], ?_⟩
      intro listener hserves
      have hbound := hserves.listens
      rw [ServesHttp.of_asks h hserves] at hbound
      exact hlistens hbound
  · refine .inl ⟨by simp [hthread], ?_⟩
    intro listener hserves
    exact hthread hserves.thread

end Start

theorem appStart_outcome (host : AppHost) (commandLine : CommandLine)
    (getVar : String → Option String) (files : String → FileEntry)
    (hown : ∀ other listening, files other ≠ .own listening) :
    App.Outcome host commandLine getVar files
      ((App.ofFiles files).start host commandLine getVar) := by
  have hipc : (getMCPIPCConfig commandLine).any isInvalidIPCConfig = true ↔
      commandLine.hasSwitch kMcpIpcPathSwitch = true ∧
        commandLine.getSwitchValueASCII kMcpIpcPathSwitch = "" := by
    rw [getMCPIPCConfig_spec]
    by_cases hswitch : commandLine.hasSwitch kMcpIpcPathSwitch = true
    · simp [hswitch, isInvalidIPCConfig]
    · simp [hswitch]
  have hipcSome : (getMCPIPCConfig commandLine).isSome =
      commandLine.hasSwitch kMcpIpcPathSwitch := by
    rw [getMCPIPCConfig_spec]
    cases commandLine.hasSwitch kMcpIpcPathSwitch <;> rfl
  rw [App.start]
  rcases @getMCPHttpConfig_spec commandLine getVar with ⟨hswitch, hnone⟩ |
    ⟨hswitch, ⟨hempty, hmissing⟩ | ⟨config, hconfig, hasks⟩⟩
  · simp only [hnone, Option.any_none, Bool.false_eq_true, if_false]
    by_cases hbad : (getMCPIPCConfig commandLine).any isInvalidIPCConfig = true
    · rw [if_pos hbad]
      exact .misconfigured (.inr (hipc.mp hbad))
    · rw [if_neg hbad, App.startTransports]
      apply App.Outcome.ofIPC hown rfl rfl
      · rw [hswitch, hipcSome]
        rfl
      · exact hswitch.symm
      · intro listener hlistener
        cases hlistener
      · rintro (⟨hasked, -⟩ | hmis)
        · exact absurd (hswitch.symm.trans hasked) Bool.false_ne_true
        · exact hbad (hipc.mpr hmis)
  · have hinvalid : (getMCPHttpConfig commandLine getVar).any isInvalidHttpConfig = true := by
      rw [hempty]
      rfl
    rw [if_pos hinvalid]
    exact .misconfigured (.inl ⟨hswitch, hmissing⟩)
  · have hvalid : ¬ (getMCPHttpConfig commandLine getVar).any isInvalidHttpConfig = true := by
      rw [hconfig, Option.any_some, hasks.valid]
      exact Bool.false_ne_true
    rw [if_neg hvalid]
    by_cases hbad : (getMCPIPCConfig commandLine).any isInvalidIPCConfig = true
    · simp only [hbad, if_true]
      exact .misconfigured (.inr (hipc.mp hbad))
    · have hconfigured : ¬ App.Misconfigured commandLine getVar := by
        rintro (⟨-, hmissing⟩ | hmis)
        · exact hmissing config hasks
        · exact hbad (hipc.mpr hmis)
      simp only [hbad, App.startTransports, hconfig]
      rcases @startHttpTransport_spec host commandLine getVar
          { (App.ofFiles files) with
            shutdownOnStdioClose := some !(true || (getMCPIPCConfig commandLine).isSome) }
          config hasks with ⟨hfailed, hnot⟩ | ⟨listener, hlistens, hserves, haddress⟩
      · simp only [Option.isSome_some, hfailed, Bool.false_eq_true, if_false]
        refine ⟨⟨fun h => Bool.noConfusion h, fun hcan => ?_⟩, fun h => Bool.noConfusion h,
          fun _ => ⟨leftAlone_ofFiles, fun h => absurd h hconfigured⟩⟩
        obtain ⟨listener, hserves⟩ := hcan.http hswitch
        exact absurd hserves (hnot listener)
      · simp only [Option.isSome_some, hlistens, if_true]
        refine App.Outcome.ofIPC hown rfl rfl ?_ hswitch.symm ?_ hconfigured
        · rw [hswitch, hipcSome]
        · intro other hother
          obtain rfl := Option.some.inj hother
          exact ⟨hserves, haddress⟩

/-- Whatever the command line, the environment and the files are, the process goes on exactly if
everything it was asked for can be had; then that and nothing else runs. One that gives up leaves
the socket path alone, and has started nothing if it was misconfigured. -/
theorem appStart_transports (host : AppHost) (commandLine : CommandLine)
    (getVar : String → Option String) (files : String → FileEntry)
    (hown : ∀ other listening, files other ≠ .own listening) :
    (((App.ofFiles files).start host commandLine getVar).terminated = false ↔
        App.CanStart host commandLine getVar files) ∧
      (App.CanStart host commandLine getVar files →
        App.Started host commandLine getVar files
          ((App.ofFiles files).start host commandLine getVar)) ∧
      (¬ App.CanStart host commandLine getVar files →
        App.GivenUp host commandLine getVar files
          ((App.ofFiles files).start host commandLine getVar)) := by
  have houtcome := appStart_outcome host commandLine getVar files hown
  refine ⟨houtcome.terminated_iff, ?_, ?_⟩
  · intro hcan
    exact houtcome.started (houtcome.terminated_iff.mpr hcan)
  · intro hcannot
    refine houtcome.givenUp ?_
    rw [← Bool.not_eq_false]
    exact fun hrunning => hcannot (houtcome.terminated_iff.mp hrunning)

/-- A switch for the port, the token in the environment and a stale socket at the path. -/
def shopCommandLine : CommandLine where
  switches := [(kMcpHttpHostSwitch, "LocalHost"), (kMcpHttpPortSwitch, "+08080"),
    (kMcpIpcPathSwitch, shopSocketPath)]

def shopVariables (name : String) : Option String :=
  if name = kMcpHttpTokenEnv then some "secret" else none

def shopHost : AppHost where
  startsHttpThread := true
  listens _ _ := true
  socketHost := { shopSocketHost with fails := fun _ => false }

def shopApp : App := (App.ofFiles staleShopSocket).start shopHost shopCommandLine shopVariables

theorem staleShopSocket_notOwn (other : String) (listening : Bool) :
    staleShopSocket other ≠ .own listening := by
  rw [staleShopSocket]
  split <;> simp

theorem appStart_transports_sample :
    (shopApp.http.map fun listener => (listener.address, listener.port, listener.token)) =
        some ("127.0.0.1", 8080, "secret") ∧
      App.Started shopHost shopCommandLine shopVariables staleShopSocket shopApp := by
  have hrunning : shopApp.terminated = false := by decide +kernel
  have hstart := appStart_transports shopHost shopCommandLine shopVariables staleShopSocket
    staleShopSocket_notOwn
  exact ⟨by decide +kernel, hstart.2.1 (hstart.1.mp hrunning)⟩

/-- The transport of a listening server. -/
def HttpListener.transport (parseURL : String → GURL) (json : JSONCodec)
    (listener : HttpListener) : MCPHttpTransport where
  parseURL := parseURL
  json := json
  token := listener.token

/-- The request bears the token of the environment. -/
def BearsToken (getVar : String → Option String) (info : HttpServerRequestInfo) : Prop :=
  ∃ scheme token, equalsCaseInsensitiveASCII scheme "Bearer " = true ∧
    getVar kMcpHttpTokenEnv = some token ∧ token ≠ "" ∧
    info.getHeaderValue "authorization" = scheme ++ token

/-- What came in as number `ticket.request` is a request with the token. -/
def Authorized (getVar : String → Option String) (events : List HttpEvent) (ticket : HttpTicket) :
    Prop :=
  ∃ info, (HttpRun.arrivals events)[ticket.request]? = some (ticket.connection, some info) ∧
    BearsToken getVar info

theorem Authorized.of_admitted {getVar : String → Option String} {transport : MCPHttpTransport}
    {events : List HttpEvent} {ticket : HttpTicket} {message : DictValue}
    (htoken : getVar kMcpHttpTokenEnv = some transport.token) (hsecret : transport.token ≠ "")
    (h : HttpRun.Admitted transport events ticket message) : Authorized getVar events ticket := by
  obtain ⟨info, harrived, hadmits⟩ := h
  obtain ⟨scheme, hscheme, hvalue⟩ := hadmits.authorization
  exact ⟨info, harrived, scheme, transport.token, hscheme, htoken, hsecret, hvalue⟩

/-- Whatever comes in over HTTP while the process runs, the MCP server gets no message, and no
response of its own goes out, but for a request with the token that the environment held at the
start, which is not empty. -/
theorem startedHttp_authorized (host : AppHost) (commandLine : CommandLine)
    (getVar : String → Option String) (files : String → FileEntry) (parseURL : String → GURL)
    (json : JSONCodec) (hown : ∀ other listening, files other ≠ .own listening)
    (hrunning : ((App.ofFiles files).start host commandLine getVar).terminated = false)
    {listener : HttpListener}
    (hlistener : ((App.ofFiles files).start host commandLine getVar).http = some listener)
    {events : List HttpEvent} {s : HttpRun}
    (hrun : Exec (Step (HttpRun.step (listener.transport parseURL json))) .start events s) :
    (∀ task ∈ s.mainTasks, Authorized getVar events task.1) ∧
      (∀ ticket ∈ s.callbacks, Authorized getVar events ticket) ∧
      (∀ task ∈ s.httpTasks, Authorized getVar events task.1) ∧
      ∀ answer ∈ s.sent, answer.2 ∈ HttpRun.refusals ∨ Authorized getVar events answer.1 := by
  have hstarted := (appStart_outcome host commandLine getVar files hown).started hrunning
  obtain ⟨⟨⟨config, hasks, heq⟩, -, -⟩, -⟩ := hstarted.listener listener hlistener
  have htoken : getVar kMcpHttpTokenEnv = some (listener.transport parseURL json).token := by
    rw [heq]
    exact hasks.token
  have hsecret : (listener.transport parseURL json).token ≠ "" := by
    rw [heq]
    exact hasks.secret
  have hadmitted := HttpRun.start_admittedOnly.run rfl hrun
  refine ⟨?_, ?_, ?_, ?_⟩
  · intro task htask
    exact .of_admitted htoken hsecret (hadmitted.posted task htask)
  · intro ticket hticket
    obtain ⟨message, hmessage⟩ := hadmitted.held ticket hticket
    exact .of_admitted htoken hsecret hmessage
  · intro task htask
    obtain ⟨message, hmessage⟩ := hadmitted.replied task htask
    exact .of_admitted htoken hsecret hmessage
  · intro answer hanswer
    rcases hadmitted.sent answer hanswer with hrefused | ⟨message, hmessage⟩
    · exact .inl hrefused
    · exact .inr (.of_admitted htoken hsecret hmessage)

/-- The first request comes with an empty token, the second with that of the environment. -/
def shopRequests : List HttpEvent :=
  [.connect 1, .request 1 { HttpRun.sampleInfo with headers := [("authorization", "Bearer ")] },
    .request 1 HttpRun.sampleInfo, .runMainTask, .runCallback ⟨1, 1⟩ none, .runHttpTask]

theorem startedHttp_authorized_sample :
    ∃ s : HttpRun, (s.sent.map fun answer => (answer.1.request, answer.2.statusCode)) =
        [(0, 401), (1, 202)] ∧
      ∀ answer ∈ s.sent, answer.2 ∈ HttpRun.refusals ∨
        Authorized shopVariables shopRequests answer.1 := by
  have hrunning : shopApp.terminated = false := by decide +kernel
  have hlistener : shopApp.http = some ⟨"127.0.0.1", 8080, "secret"⟩ := by rfl
  have heval : (shopRequests.foldlM (HttpRun.step HttpRun.sampleTransport) .start).map
      (fun last => last.sent.map fun answer => (answer.1.request, answer.2.statusCode)) =
        some [(0, 401), (1, 202)] := by decide +kernel
  obtain ⟨s, hrun, hsent⟩ := Exec.exists_of_foldlM heval
  exact ⟨s, hsent, (startedHttp_authorized shopHost shopCommandLine shopVariables staleShopSocket
    HttpRun.sampleTransport.parseURL HttpRun.sampleTransport.json staleShopSocket_notOwn hrunning
    hlistener hrun).2.2.2⟩

end Browserd
