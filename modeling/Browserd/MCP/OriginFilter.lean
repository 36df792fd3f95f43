import Browserd.Lib.Digits
import Browserd.MCP.HttpContract

/-!
# The origin filter

Which origins `IsAllowedOrigin` lets through, set against the hosts their URLs have. What `GURL`
makes of a header is a parameter; it is known by the hosts it finds and by how it writes them.
-/

namespace Browserd

/-- The host of a URL: an address, or a name as the URL spells it. -/
inductive URLHost where
  | ipv4 (a b c d : UInt8)
  | ipv6 (address : BitVec 128)
  | name (text : String)
  deriving DecidableEq

/-- `base::ToLowerASCII`. -/
def toLowerASCII (s : String) : String := String.ofList (s.toList.map Char.toLower)

/-- The canonical text of an IPv4 address. -/
def dottedDecimal (a b c d : UInt8) : String :=
  a.toNat.repr ++ "." ++ b.toNat.repr ++ "." ++ c.toNat.repr ++ "." ++ d.toNat.repr

/-- How `GURL` writes the hosts of the URLs it accepts: an IPv4 address in decimal, an IPv6 address
in square brackets, a name in lower case. What spells an IPv4 address is one and no name, and no
name has a colon. -/
structure CanonicalHosts (parseURL : String → GURL) (hostOf : String → Option URLHost) : Prop where
  isValid (text : String) : (parseURL text).isValid = (hostOf text).isSome
  empty : hostOf "" = none
  ipv4 {text : String} {a b c d : UInt8} : hostOf text = some (.ipv4 a b c d) →
    (parseURL text).host = dottedDecimal a b c d
  ipv6 {text : String} {address : BitVec 128} : hostOf text = some (.ipv6 address) →
    ∃ groups, (parseURL text).host = "[" ++ groups ++ "]"
  name {text name : String} : hostOf text = some (.name name) →
    (parseURL text).host = toLowerASCII name
  notAddress {text name : String} : hostOf text = some (.name name) →
    ':' ∉ (toLowerASCII name).toList ∧ ∀ a b c d, toLowerASCII name ≠ dottedDecimal a b c d

/-- The loopback hosts: `127.0.0.1`, `::1`, and `localhost` in any letter case. -/
def URLHost.IsLoopback : URLHost → Prop
  | .ipv4 a b c d => (a, b, c, d) = (127, 0, 0, 1)
  | .ipv6 address => address = 1
  | .name text => equalsCaseInsensitiveASCII text "localhost" = true

/-- No origin at all, or one with a loopback host, whatever its scheme and port. -/
def IsLoopbackOrigin (hostOf : String → Option URLHost) (origin : String) : Prop :=
  origin = "" ∨ ∃ host, hostOf origin = some host ∧ host.IsLoopback

theorem toLower_toLower (c : Char) : c.toLower.toLower = c.toLower := by
  apply Char.ext
  delta Char.toLower
  split <;> grind

/-- A text with a character that neither `::1` nor `localhost` has. -/
theorem isLoopbackOriginHost_iff {host : String} {c : Char} (hc : c ∈ host.toList)
    (hlower : c.toLower = c) (hcolons : c ∉ "::1".toList)
    (hname : c ∉ "localhost".toList.map Char.toLower) :
    isLoopbackOriginHost host = true ↔ host = "127.0.0.1" := by
  simp only [isLoopbackOriginHost, Bool.or_eq_true, beq_iff_eq]
  constructor
  · rintro ((rfl | rfl) | hlocalhost)
    · rfl
    · exact absurd hc hcolons
    · rw [equalsCaseInsensitiveASCII, beq_iff_eq] at hlocalhost
      apply absurd _ hname
      rw [← hlocalhost, ← hlower]
      exact List.mem_map_of_mem hc
  · exact fun h => .inl (.inl h)

section DottedDecimal

variable {a b c d : UInt8}

theorem toList_dottedDecimal : (dottedDecimal a b c d).toList =
    Nat.toDigits 10 a.toNat ++ '.' :: (Nat.toDigits 10 b.toNat ++ '.' ::
      (Nat.toDigits 10 c.toNat ++ '.' :: Nat.toDigits 10 d.toNat)) := by
  simp [dottedDecimal, Nat.toList_repr]

theorem dot_notMem_toDigits (n : Nat) : '.' ∉ Nat.toDigits 10 n := by
  intro hmem
  exact absurd (Nat.isDigit_of_mem_toDigits (by decide) (by decide) hmem) (by decide)

theorem splitOn_dottedDecimal : (dottedDecimal a b c d).toList.splitOn '.' =
    [a, b, c, d].map fun part => Nat.toDigits 10 part.toNat := by
  have hrest : ∀ piece ∈ [b, c, d].map fun part => Nat.toDigits 10 part.toNat, '.' ∉ piece := by
    intro piece hpiece
    obtain ⟨part, -, rfl⟩ := List.mem_map.mp hpiece
    exact dot_notMem_toDigits part.toNat
  rw [toList_dottedDecimal]
  simpa using Lines.splitOn_separated (dot_notMem_toDigits a.toNat) hrest

theorem dottedDecimal_injective {a' b' c' d' : UInt8}
    (h : dottedDecimal a b c d = dottedDecimal a' b' c' d') :
    (a, b, c, d) = (a', b', c', d') := by
  have hparts := congrArg (fun s => s.toList.splitOn '.') h
  simp only [splitOn_dottedDecimal] at hparts
  have hdigits : Function.Injective fun part : UInt8 => Nat.toDigits 10 part.toNat := by
    intro x y hxy
    exact UInt8.toNat_inj.mp (Digits.toDigits_injective (by decide) (by decide) hxy)
  simpa using List.map_injective_iff.mpr hdigits hparts

theorem dottedDecimal_loopback : dottedDecimal 127 0 0 1 = "127.0.0.1" := by
  decide +kernel

theorem isLoopbackOriginHost_ipv4 :
    isLoopbackOriginHost (dottedDecimal a b c d) = true ↔ (a, b, c, d) = (127, 0, 0, 1) := by
  have hdot : '.' ∈ (dottedDecimal a b c d).toList := by simp [toList_dottedDecimal]
  rw [isLoopbackOriginHost_iff hdot rfl (by simp) (by simp), ← dottedDecimal_loopback]
  constructor
  · exact dottedDecimal_injective
  · intro h
    cases h
    rfl

end DottedDecimal

/-- The brackets keep an IPv6 address from being recognised. -/
theorem isLoopbackOriginHost_ipv6 (groups : String) :
    isLoopbackOriginHost ("[" ++ groups ++ "]") = false := by
  have hbracket : '[' ∈ ("[" ++ groups ++ "]").toList := by simp
  rw [Bool.eq_false_iff, ne_eq, isLoopbackOriginHost_iff hbracket rfl (by simp) (by simp)]
  intro h
  rw [h] at hbracket
  simp at hbracket

theorem equalsCaseInsensitiveASCII_toLowerASCII (s t : String) :
    equalsCaseInsensitiveASCII (toLowerASCII s) t = equalsCaseInsensitiveASCII s t := by
  have htwice : (s.toList.map Char.toLower).map Char.toLower = s.toList.map Char.toLower := by
    rw [List.map_map]
    exact List.map_congr_left fun c _ => toLower_toLower c
  rw [equalsCaseInsensitiveASCII, toLowerASCII, String.toList_ofList, htwice,
    equalsCaseInsensitiveASCII]

theorem isLoopbackOriginHost_name {name : String} (hcolon : ':' ∉ (toLowerASCII name).toList)
    (haddress : ∀ a b c d, toLowerASCII name ≠ dottedDecimal a b c d) :
    isLoopbackOriginHost (toLowerASCII name) = true ↔
      equalsCaseInsensitiveASCII name "localhost" = true := by
  have hipv4 : toLowerASCII name ≠ "127.0.0.1" := by
    rw [← dottedDecimal_loopback]
    exact haddress 127 0 0 1
  have hipv6 : toLowerASCII name ≠ "::1" := by
    intro h
    simp [h] at hcolon
  simp only [isLoopbackOriginHost, Bool.or_eq_true, beq_iff_eq, hipv4, hipv6, false_or,
    equalsCaseInsensitiveASCII_toLowerASCII]

section Origins

variable {parseURL : String → GURL} {hostOf : String → Option URLHost} {origin : String}
  {host : URLHost}

/-- The text of a host passes exactly if the host is a loopback host and is not `::1`. -/
theorem isLoopbackOriginHost_host_iff (h : CanonicalHosts parseURL hostOf)
    (hhost : hostOf origin = some host) :
    isLoopbackOriginHost (parseURL origin).host = true ↔ host.IsLoopback ∧ host ≠ .ipv6 1 := by
  cases host with
  | ipv4 a b c d =>
      rw [h.ipv4 hhost, isLoopbackOriginHost_ipv4]
      exact (and_iff_left URLHost.noConfusion).symm
  | ipv6 address =>
      obtain ⟨groups, hgroups⟩ := h.ipv6 hhost
      rw [hgroups, isLoopbackOriginHost_ipv6]
      simp only [URLHost.IsLoopback, ne_eq, URLHost.ipv6.injEq, and_not_self_iff,
        Bool.false_eq_true]
  | name text =>
      obtain ⟨hcolon, haddress⟩ := h.notAddress hhost
      rw [h.name hhost, isLoopbackOriginHost_name hcolon haddress]
      exact (and_iff_left URLHost.noConfusion).symm

end Origins

namespace MCPHttpTransport

/-- The filter lets exactly the loopback origins through, unless the host of the origin is the
IPv6 loopback address. -/
theorem isAllowedOrigin_loopback_iff {transport : MCPHttpTransport}
    {hostOf : String → Option URLHost} (hhosts : CanonicalHosts transport.parseURL hostOf)
    (info : HttpServerRequestInfo) :
    (transport.isAllowedOrigin info = true ↔
        IsLoopbackOrigin hostOf (info.getHeaderValue "origin")) ↔
      hostOf (info.getHeaderValue "origin") ≠ some (.ipv6 1) := by
  rw [isAllowedOrigin_iff]
  generalize info.getHeaderValue "origin" = origin
  by_cases hempty : origin = ""
  · subst hempty
    simp [IsLoopbackOrigin, hhosts.empty]
  · rw [IsLoopbackOrigin, hhosts.isValid]
    cases hhost : hostOf origin with
    | none => simp
    | some host =>
        rw [isLoopbackOriginHost_host_iff hhosts hhost]
        simp only [hempty, false_or, Option.isSome_some, true_and, ne_eq, Option.some.injEq,
          exists_eq_left']
        constructor
        · rintro hiff rfl
          exact (hiff.mpr rfl).2 rfl
        · exact fun hne => and_iff_left hne

section Samples

/-- Two origins of pages that the machine itself serves. -/
def sampleHostOf (text : String) : Option URLHost :=
  if text = "http://LocalHost:8080" then some (.name "LocalHost")
  else if text = "http://[::1]:8080" then some (.ipv6 1)
  else none

def sampleParseURL (text : String) : GURL :=
  if text = "http://LocalHost:8080" then ⟨"http://localhost:8080/", true, "http", "localhost"⟩
  else if text = "http://[::1]:8080" then ⟨"http://[::1]:8080/", true, "http", "[::1]"⟩
  else ⟨"", false, "", ""⟩

private theorem toLowerASCII_localHost : toLowerASCII "LocalHost" = "localhost" := by
  decide +kernel

theorem sampleHosts : CanonicalHosts sampleParseURL sampleHostOf where
  isValid text := by
    unfold sampleParseURL sampleHostOf
    split
    · rfl
    · split <;> rfl
  empty := by simp [sampleHostOf]
  ipv4 h := by
    unfold sampleHostOf at h
    split at h
    · simp at h
    · split at h <;> simp at h
  ipv6 h := by
    unfold sampleHostOf at h
    split at h
    · simp at h
    · split at h
      · rename_i hname htext
        exact ⟨"::1", by simp [sampleParseURL, htext]⟩
      · simp at h
  name h := by
    unfold sampleHostOf at h
    split at h
    · rename_i htext
      obtain rfl : "LocalHost" = _ := by simpa using h
      rw [sampleParseURL, if_pos htext, toLowerASCII_localHost]
    · split at h <;> simp at h
  notAddress h := by
    unfold sampleHostOf at h
    split at h
    · obtain rfl : "LocalHost" = _ := by simpa using h
      rw [toLowerASCII_localHost]
      refine ⟨by simp, fun a b c d heq => ?_⟩
      have hdot : '.' ∈ (dottedDecimal a b c d).toList := by simp [toList_dottedDecimal]
      rw [← heq] at hdot
      simp at hdot
    · split at h <;> simp at h

def originTransport : MCPHttpTransport :=
  { HttpRun.sampleTransport with parseURL := sampleParseURL }

/-- A request with this origin. -/
def requestFrom (origin : String) : HttpServerRequestInfo :=
  { HttpRun.sampleInfo with headers := [("origin", origin)] }

theorem isAllowedOrigin_loopback_sample :
    originTransport.isAllowedOrigin (requestFrom "http://LocalHost:8080") = true ↔
      IsLoopbackOrigin sampleHostOf
        ((requestFrom "http://LocalHost:8080").getHeaderValue "origin") := by
  apply (isAllowedOrigin_loopback_iff sampleHosts (requestFrom "http://LocalHost:8080")).mpr
  have horigin : (requestFrom "http://LocalHost:8080").getHeaderValue "origin" =
      "http://LocalHost:8080" := rfl
  rw [horigin]
  simp [sampleHostOf]

/-- The IPv6 loopback address is refused. -/
theorem ipv6Loopback_refused :
    CanonicalHosts originTransport.parseURL sampleHostOf ∧
      IsLoopbackOrigin sampleHostOf
        ((requestFrom "http://[::1]:8080").getHeaderValue "origin") ∧
      originTransport.isAllowedOrigin (requestFrom "http://[::1]:8080") = false := by
  refine ⟨sampleHosts, .inr ⟨.ipv6 1, ?_, rfl⟩, by decide +kernel⟩
  decide +kernel

end Samples

end MCPHttpTransport

end Browserd
