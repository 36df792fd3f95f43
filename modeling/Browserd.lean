import Browserd.Lib.Exec
import Browserd.Base.Values
import Browserd.MCP.Server
import Browserd.MCP.ServerSteps
import Browserd.MCP.QueueDiscipline
import Browserd.MCP.ReplyDiscipline
import Browserd.MCP.Framing
import Browserd.Runtime.HeadlessStrip
import Browserd.Runtime.GuiRuntime
import Browserd.Runtime.GuiStrip
import Browserd.Runtime.Agreement
import Browserd.Core.Waiters
import Browserd.Core.NavigationRuns
import Browserd.Core.BrowserController
import Browserd.Core.NavigationSoundness
import Browserd.Core.ClosedTab
import Browserd.MCP.Tools
import Browserd.MCP.ClientIsolation
import Browserd.MCP.NestedClose
import Browserd.Runtime.GuiRepresentation
import Browserd.Runtime.TargetIds
import Browserd.Runtime.ContextLife
import Browserd.Runtime.QuitRequest
import Browserd.Embed.Completion
import Browserd.Embed.SingleRun
import Browserd.MCP.HttpContract
import Browserd.MCP.HttpOrder
import Browserd.MCP.IPCSocketPath
import Browserd.Core.ConsoleCapture
import Browserd.Core.ScrollAmount
import Browserd.Core.TypedText
import Browserd.Core.PressedKeys
import Browserd.Core.AsyncRequests
import Browserd.Core.WaitFor
import Browserd.Lib.Registry
import Browserd.Core.PageInstrumentation
import Browserd.Core.IntegerArguments
import Browserd.MCP.DescriptorRuns
import Browserd.MCP.IPCStart
import Browserd.MCP.PipeHandles
import Browserd.Lib.WriteLoop
import Browserd.Lib.Stages
import Browserd.MCP.ResponseWrites
import Browserd.MCP.ResponseRuns
import Browserd.Embed.SwitchPolicy
import Browserd.Core.DomTyping
import Browserd.Core.SnapshotIndex
import Browserd.Runtime.ClosingCallbacks
import Browserd.MCP.ClientSteps
import Browserd.MCP.PolledReads
import Browserd.MCP.Reconnection
import Browserd.Startup.FeatureDefaults
import Browserd.Runtime.AddressedTab
import Browserd.MCP.OriginFilter
import Browserd.Core.MouseOperations
import Browserd.Lib.PostedTasks
import Browserd.Runtime.WindowBounds
import Browserd.Core.InteractionBounds
import Browserd.Core.Cookies
import Browserd.Core.ControllerCalls
import Browserd.MCP.CookieTools
import Browserd.MCP.ToolHost
import Browserd.MCP.PageTools
import Browserd.MCP.PageServer
import Browserd.MCP.ToolContract
import Browserd.MCP.StdioTransport
import Browserd.MCP.HttpAdmission
import Browserd.Startup.App
import Browserd.Lib.StringLiteral
import Browserd.Core.ScriptText
import Browserd.Core.DomSelect
import Browserd.Embed.PageSession
import Browserd.Embed.PageSessionRuns
import Browserd.Embed.SessionContract
import Browserd.MCP.PageServerDrain
