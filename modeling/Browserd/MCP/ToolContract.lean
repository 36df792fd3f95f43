import Browserd.MCP.PageServer

/-!
# What the schemas promise

A client learns from `tools/list` which arguments a tool takes, of what types, and which of them it
cannot do without. The handlers keep to that: they read nothing else, and answer a call that lacks
something required before they do anything.
-/

namespace Browserd

/-- The types that the schemas name. -/
def Value.hasType (type : String) : Value → Bool
  | .string _ => type == "string"
  | .integer _ => type == "integer"
  | .boolean _ => type == "boolean"
  | .list _ => type == "array"
  | _ => false

namespace ToolSchema

def declaredType (schema : DictValue) (key : String) : Option String :=
  (schema.findDict "properties").bind fun properties =>
    (properties.findDict key).bind fun property => property.findString "type"

def requiredKeys (schema : DictValue) : List String :=
  ((schema.findList "required").getD []).filterMap PageTools.getIfString

/-- The argument of a declared property; one that is not of its type is none. -/
def argument (schema args : DictValue) (key : String) : Option Value :=
  (declaredType schema key).bind fun type => (args.find key).filter (Value.hasType type)

/-- The arguments do not differ in what the schema declares. -/
def Agree (schema args args' : DictValue) : Prop :=
  ∀ key, argument schema args key = argument schema args' key

/-- What is answered to a call that lacks a required argument. -/
def missingResult (required : List String) : ToolResult :=
  (textContent ("Missing required parameter" ++ (if required.length = 1 then ": " else "s: ") ++
    ", ".intercalate required), true)

variable {schema args args' : DictValue} {key : String}

theorem findString_eq (hdecl : declaredType schema key = some "string") :
    args.findString key =
      (argument schema args key).bind fun | .string s => some s | _ => none := by
  rw [argument, hdecl, Option.bind_some, DictValue.findString]
  cases args.find key with
  | none => rfl
  | some value => cases value <;> rfl

theorem findInt_eq (hdecl : declaredType schema key = some "integer") :
    args.findInt key = (argument schema args key).bind fun | .integer n => some n | _ => none := by
  rw [argument, hdecl, Option.bind_some, DictValue.findInt]
  cases args.find key with
  | none => rfl
  | some value => cases value <;> rfl

theorem findBool_eq (hdecl : declaredType schema key = some "boolean") :
    args.findBool key = (argument schema args key).bind fun | .boolean b => some b | _ => none := by
  rw [argument, hdecl, Option.bind_some, DictValue.findBool]
  cases args.find key with
  | none => rfl
  | some value => cases value <;> rfl

theorem findList_eq (hdecl : declaredType schema key = some "array") :
    args.findList key = (argument schema args key).bind fun | .list l => some l | _ => none := by
  rw [argument, hdecl, Option.bind_some, DictValue.findList]
  cases args.find key with
  | none => rfl
  | some value => cases value <;> rfl

theorem findString_eq_none (hnone : argument schema args key = none)
    (hdecl : declaredType schema key = some "string") : args.findString key = none := by
  rw [findString_eq hdecl, hnone]
  rfl

theorem findList_eq_none (hnone : argument schema args key = none)
    (hdecl : declaredType schema key = some "array") : args.findList key = none := by
  rw [findList_eq hdecl, hnone]
  rfl

namespace Agree

variable (h : Agree schema args args') (key : String)
include h

theorem findString (hdecl : declaredType schema key = some "string") :
    args.findString key = args'.findString key := by
  rw [findString_eq hdecl, findString_eq hdecl, h key]

theorem findInt (hdecl : declaredType schema key = some "integer") :
    args.findInt key = args'.findInt key := by
  rw [findInt_eq hdecl, findInt_eq hdecl, h key]

theorem findBool (hdecl : declaredType schema key = some "boolean") :
    args.findBool key = args'.findBool key := by
  rw [findBool_eq hdecl, findBool_eq hdecl, h key]

theorem findList (hdecl : declaredType schema key = some "array") :
    args.findList key = args'.findList key := by
  rw [findList_eq hdecl, findList_eq hdecl, h key]

end Agree

end ToolSchema

open ToolSchema

variable {ρ : Type} [BrowserRuntime ρ] {κ : Type}

/-- The handler reads only what its schema declares, and a call that lacks a required argument, or
has it of another type, is answered at once and changes nothing. -/
structure KeepsContract (tool : MCPToolDef (PageBrowser ρ κ)) : Prop where
  declared : ∀ args args', Agree tool.inputSchema args args' →
    tool.handler args = tool.handler args'
  required : ∀ args key, key ∈ requiredKeys tool.inputSchema →
    argument tool.inputSchema args key = none → ∀ callback b,
      tool.handler args callback b = (b, some (missingResult (requiredKeys tool.inputSchema)))

namespace KeepsContract

/-- A tool that reads no arguments. -/
theorem of_noArguments {tool : MCPToolDef (PageBrowser ρ κ)}
    (hhandler : ∀ args args', tool.handler args = tool.handler args')
    (hrequired : requiredKeys tool.inputSchema = []) : KeepsContract tool where
  declared args args' _ := hhandler args args'
  required args key hkey := by simp [hrequired] at hkey

/-- A tool that can do without any argument. -/
theorem of_optional {tool : MCPToolDef (PageBrowser ρ κ)}
    (hdeclared : ∀ args args', Agree tool.inputSchema args args' →
      tool.handler args = tool.handler args')
    (hrequired : requiredKeys tool.inputSchema = []) : KeepsContract tool where
  declared := hdeclared
  required args key hkey := by simp [hrequired] at hkey

/-- A tool that cannot do without one text. -/
theorem of_requiredString {tool : MCPToolDef (PageBrowser ρ κ)} {name : String}
    (hdeclared : ∀ args args', Agree tool.inputSchema args args' →
      tool.handler args = tool.handler args')
    (hrequired : requiredKeys tool.inputSchema = [name])
    (htype : declaredType tool.inputSchema name = some "string")
    (hmissing : ∀ args callback b, args.findString name = none →
      tool.handler args callback b = (b, some (missingResult [name]))) : KeepsContract tool where
  declared := hdeclared
  required args key hkey hnone callback b := by
    rw [hrequired] at hkey ⊢
    obtain rfl := List.mem_singleton.mp hkey
    exact hmissing args callback b (findString_eq_none hnone htype)

/-- A tool that cannot do without two arguments; `first` and `second` read them. -/
theorem of_requiredPair {tool : MCPToolDef (PageBrowser ρ κ)} {name name' : String} {α β : Type}
    (first : DictValue → Option α) (second : DictValue → Option β)
    (hdeclared : ∀ args args', Agree tool.inputSchema args args' →
      tool.handler args = tool.handler args')
    (hrequired : requiredKeys tool.inputSchema = [name, name'])
    (hfirst : ∀ args, argument tool.inputSchema args name = none → first args = none)
    (hsecond : ∀ args, argument tool.inputSchema args name' = none → second args = none)
    (hmissing : ∀ args callback b, first args = none ∨ second args = none →
      tool.handler args callback b = (b, some (missingResult [name, name']))) :
    KeepsContract tool where
  declared := hdeclared
  required args key hkey hnone callback b := by
    rw [hrequired] at hkey ⊢
    apply hmissing
    rcases List.mem_pair.mp hkey with rfl | rfl
    · exact .inl (hfirst args hnone)
    · exact .inr (hsecond args hnone)

end KeepsContract

namespace PageTools

open KeepsContract

variable (chromium : PageChromium κ)

theorem navigationTools_keepContract :
    ∀ tool ∈ (Tools.navigationTools (ρ := ρ) chromium.toChromium).map (registerTabTool (κ := κ)),
      KeepsContract tool := by
  simp only [Tools.navigationTools, List.map_cons, List.map_nil, List.forall_mem_cons]
  refine ⟨of_requiredString ?_ rfl rfl ?_, of_noArguments (fun _ _ => rfl) rfl,
    of_noArguments (fun _ _ => rfl) rfl, of_noArguments (fun _ _ => rfl) rfl, by simp⟩
  · intro args args' h
    funext callback b
    simp only [registerTabTool, onTabs, Tools.handleNavigate, h.findString "url" rfl]
  · intro args callback b hnone
    simp only [registerTabTool, onTabs, Tools.handleNavigate, hnone]
    rfl

theorem pageTools_keepContract :
    ∀ tool ∈ registerWith
        (Tools.snapshotTools ++ Tools.interactionTools ++ Tools.evaluateTools ++ Tools.waitTools)
        (pageHandlers (ρ := ρ) chromium),
      KeepsContract tool := by
  simp only [registerWith, Tools.snapshotTools, Tools.interactionTools, Tools.evaluateTools,
    Tools.waitTools, pageHandlers, List.cons_append, List.nil_append, List.zipWith_cons_cons,
    List.zipWith_nil_left, List.forall_mem_cons]
  refine ⟨of_noArguments (fun _ _ => rfl) rfl, of_noArguments (fun _ _ => rfl) rfl,
    of_requiredString ?click rfl rfl ?clickMissing, of_requiredString ?hover rfl rfl ?hoverMissing,
    of_requiredPair (fun args => args.findString "ref") (fun args => args.findString "text") ?type
      rfl (fun _ hnone => findString_eq_none hnone rfl)
      (fun _ hnone => findString_eq_none hnone rfl) ?typeMissing,
    of_requiredString ?key rfl rfl ?keyMissing,
    of_requiredPair (fun args => args.findString "ref") (fun args => args.findList "values")
      ?select rfl (fun _ hnone => findString_eq_none hnone rfl)
      (fun _ hnone => findList_eq_none hnone rfl) ?selectMissing,
    of_requiredPair (fun args => args.findString "startRef")
      (fun args => args.findString "endRef") ?drag rfl
      (fun _ hnone => findString_eq_none hnone rfl)
      (fun _ hnone => findString_eq_none hnone rfl) ?dragMissing,
    of_optional ?scroll rfl, of_requiredString ?evaluate rfl rfl ?evaluateMissing,
    of_noArguments (fun _ _ => rfl) rfl, of_optional ?wait rfl, by simp⟩
  case click =>
    intro args args' h
    funext callback b
    simp only [handleClick, h.findString "ref" rfl]
  case clickMissing =>
    intro args callback b hnone
    simp only [handleClick, hnone]
    rfl
  case hover =>
    intro args args' h
    funext callback b
    simp only [handleHover, h.findString "ref" rfl]
  case hoverMissing =>
    intro args callback b hnone
    simp only [handleHover, hnone]
    rfl
  case type =>
    intro args args' h
    funext callback b
    simp only [handleType, h.findString "ref" rfl, h.findString "text" rfl,
      h.findBool "clear" rfl]
  case typeMissing =>
    intro args callback b hnone
    simp only [handleType]
    split
    · rename_i ref text href htext
      simp [href, htext] at hnone
    · rfl
  case key =>
    intro args args' h
    funext callback b
    simp only [handlePressKey, h.findString "key" rfl]
  case keyMissing =>
    intro args callback b hnone
    simp only [handlePressKey, hnone]
    rfl
  case select =>
    intro args args' h
    funext callback b
    simp only [handleSelectOption, h.findString "ref" rfl, h.findList "values" rfl]
  case selectMissing =>
    intro args callback b hnone
    simp only [handleSelectOption]
    split
    · rename_i ref values href hvalues
      simp [href, hvalues] at hnone
    · rfl
  case drag =>
    intro args args' h
    funext callback b
    simp only [handleDragAndDrop, h.findString "startRef" rfl, h.findString "endRef" rfl]
  case dragMissing =>
    intro args callback b hnone
    simp only [handleDragAndDrop]
    split
    · rename_i startRef endRef hstart hend
      simp [hstart, hend] at hnone
    · rfl
  case scroll =>
    intro args args' h
    funext callback b
    simp only [handleScrollTool, handleScroll, h.findInt "deltaX" rfl, h.findInt "deltaY" rfl]
  case evaluate =>
    intro args args' h
    funext callback b
    simp only [handleEvaluate, h.findString "expression" rfl]
  case evaluateMissing =>
    intro args callback b hnone
    simp only [handleEvaluate, hnone]
    rfl
  case wait =>
    intro args args' h
    funext callback b
    simp only [handleWait, handleWaitFor, h.findString "selector" rfl, h.findString "text" rfl,
      h.findInt "timeout" rfl]

theorem tabTools_keepContract :
    ∀ tool ∈ (Tools.tabTools (ρ := ρ) chromium.toChromium).map (registerTabTool (κ := κ)),
      KeepsContract tool := by
  simp only [Tools.tabTools, List.map_cons, List.map_nil, List.forall_mem_cons]
  refine ⟨of_noArguments (fun _ _ => rfl) rfl, of_optional ?_ rfl, of_optional ?_ rfl,
    of_optional ?_ rfl, by simp⟩
  · intro args args' h
    funext callback b
    simp only [registerTabTool, onTabs, Tools.handleNewTab, h.findString "url" rfl]
  · intro args args' h
    funext callback b
    simp only [registerTabTool, onTabs, Tools.handleClose, h.findString "targetId" rfl]
  · intro args args' h
    funext callback b
    simp only [registerTabTool, onTabs, Tools.handleResize, h.findInt "width" rfl,
      h.findInt "height" rfl]

theorem cookieTools_keepContract :
    ∀ tool ∈ registerWith Tools.cookieTools (cookieHandlers (ρ := ρ) chromium),
      KeepsContract tool := by
  simp only [registerWith, Tools.cookieTools, cookieHandlers, List.map_cons, List.map_nil,
    List.zipWith_cons_cons, List.zipWith_nil_left, List.forall_mem_cons]
  refine ⟨of_optional ?_ rfl, of_requiredString ?_ rfl rfl ?_,
    of_requiredPair (fun args => args.findString "name") (fun args => args.findString "value") ?_
      rfl (fun _ hnone => findString_eq_none hnone rfl)
      (fun _ hnone => findString_eq_none hnone rfl) ?_,
    of_requiredString ?_ rfl rfl ?_, of_noArguments (fun _ _ => rfl) rfl, by simp⟩
  · intro args args' h
    funext callback b
    simp only [handleCookieTool, CookieTool.handle, Tools.handleCookieList, h.findString "url" rfl]
  · intro args args' h
    funext callback b
    simp only [handleCookieTool, CookieTool.handle, Tools.handleCookieGet, h.findString "name" rfl]
  · intro args callback b hnone
    simp only [handleCookieTool, CookieTool.handle, Tools.handleCookieGet, hnone]
    rfl
  · intro args args' h
    funext callback b
    simp only [handleCookieTool, CookieTool.handle, Tools.handleCookieSet, h.findString "name" rfl,
      h.findString "value" rfl, h.findString "domain" rfl, h.findString "path" rfl,
      h.findString "url" rfl, h.findBool "secure" rfl, h.findBool "httpOnly" rfl]
  · intro args callback b hnone
    simp only [handleCookieTool, CookieTool.handle, Tools.handleCookieSet]
    split
    · rename_i result hresult
      split at hresult
      · rename_i name value hname hvalue
        simp [hname, hvalue] at hnone
      · obtain rfl := Except.error.inj hresult
        rfl
    · rename_i call hcall
      split at hcall
      · rename_i name value hname hvalue
        simp [hname, hvalue] at hnone
      · cases hcall
  · intro args args' h
    funext callback b
    simp only [handleCookieTool, CookieTool.handle, Tools.handleCookieDelete,
      h.findString "name" rfl, h.findString "url" rfl, h.findString "domain" rfl]
  · intro args callback b hnone
    simp only [handleCookieTool, CookieTool.handle, Tools.handleCookieDelete, hnone]
    rfl

end PageTools

/-- Every tool keeps to its schema: no argument that is not declared there, and none of another
type, changes what a call does, and a call without an argument that is required there is refused
with the names of the required arguments before it has done anything. -/
theorem tools_keepContract (chromium : PageChromium κ) :
    ∀ tool ∈ PageTools.registerTools (ρ := ρ) chromium, KeepsContract tool := by
  intro tool htool
  simp only [PageTools.registerTools, List.mem_append] at htool
  rcases htool with ((h | h) | h) | h
  · exact PageTools.navigationTools_keepContract chromium tool h
  · exact PageTools.pageTools_keepContract chromium tool h
  · exact PageTools.tabTools_keepContract chromium tool h
  · exact PageTools.cookieTools_keepContract chromium tool h

/-- `browser_navigate` with a number for a URL. -/
theorem tools_keepContract_sample :
    PageTools.onTabs (Tools.handleNavigate (ρ := HeadlessRuntime) shopChromium)
        [("url", .integer 7)] ⟨.integer 1, 0⟩
        shopPageServer.browser =
      (shopPageServer.browser, some (missingResult ["url"])) := by
  have htool : PageTools.registerTabTool ⟨"browser_navigate", "Navigate to a URL",
      Tools.schemaObject (DictValue.set [] "url" (Tools.schemaString "URL to navigate to")) ["url"],
      Tools.handleNavigate (ρ := HeadlessRuntime) shopChromium⟩ ∈
        PageTools.registerTools shopPageChromium :=
    List.mem_cons_self
  exact (tools_keepContract shopPageChromium _ htool).required [("url", .integer 7)] "url"
    List.mem_cons_self rfl ⟨.integer 1, 0⟩ shopPageServer.browser

end Browserd
