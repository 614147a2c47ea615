/-
  MountControl — which endpoints are named by their own text.

  An endpoint is handed on as a URL: its path or host is put behind a scheme
  as it is.  Reading a URL encodes and resolves paths, so a path that was
  never read as one may come out as another.

  * `parse_display_iff`: an endpoint is read back from its text if and only if
    reading has nothing left to change in it;
  * `daemon_socket_names`: so a worker is told the endpoint that was read,
    unless it was read as a raw path that is not settled, or from a URL with
    an opaque path.
-/
import MountControl.Proofs.Net.Url
import MountControl.Service.Child

namespace MountControl.Config

open Net (IsHost SchemeKind Url)

/-- The endpoints in which reading has nothing left to change. -/
def Endpoint.Settled : Endpoint → Prop
  | .unix path => ∃ rest, path.toList = '/' :: rest ∧ Net.Settled rest
  | .tcp host _ => IsHost host.toList

/-! ## What is read -/

/-- A host that was read is settled, and so is a path that was read behind a slash of a URL. -/
theorem settled_of_ofUrl {text : String} {chars : List Char} {url : Url} {endpoint : Endpoint}
    (hurl : Url.parse chars = .ok url) (h : Endpoint.ofUrl text url = .ok endpoint)
    (hslash : ∀ path, endpoint = .unix path → path.toList.head? = some '/') :
    endpoint.Settled := by
  rw [Endpoint.ofUrl] at h
  split at h
  next hscheme =>
    have hkind : SchemeKind.of url.scheme = .plain := by rw [hscheme]; decide
    split at h
    next => cases h
    next =>
      cases h
      obtain ⟨rest, hrest⟩ := List.head?_eq_some_iff.1 (hslash _ rfl)
      rw [String.toList_ofList] at hrest
      exact ⟨rest, by rw [String.toList_ofList, hrest], (Url.parse_parts hurl hkind).2 rest hrest⟩
  next =>
    split at h
    next hscheme =>
      have hkind : SchemeKind.of url.scheme = .plain := by rw [hscheme]; decide
      split at h
      next => cases h
      next => cases h
      next host port hhost hport =>
        cases h
        rw [Endpoint.Settled, String.toList_ofList]
        exact (Url.parse_parts hurl hkind).1 host hhost
    next => cases h

theorem settled_of_parse {text : String} {endpoint : Endpoint}
    (h : Endpoint.parse text = .ok endpoint) (htext : text.toList.head? ≠ some '/')
    (hslash : ∀ path, endpoint = .unix path → path.toList.head? = some '/') :
    endpoint.Settled := by
  rw [Endpoint.parse, if_neg htext] at h
  split at h
  next => cases h
  next url hurl => exact settled_of_ofUrl hurl h hslash

/-! ## What is read back -/

theorem parse_eq_ofUrl {text : String} {url : Url} (htext : text.toList.head? ≠ some '/')
    (hurl : Url.parse text.toList = .ok url) : Endpoint.parse text = Endpoint.ofUrl text url := by
  rw [Endpoint.parse, if_neg htext, hurl]

theorem path_of_ofUrl {text path : String} {url : Url}
    (h : Endpoint.ofUrl text url = .ok (.unix path)) : url.path ≠ [] ∧ path.toList = url.path := by
  rw [Endpoint.ofUrl] at h
  split at h
  next =>
    split at h
    next => cases h
    next hne =>
      cases h
      exact ⟨by simpa using hne, String.toList_ofList⟩
  next =>
    split at h
    next => split at h <;> cases h
    next => cases h

theorem ofUrl_unix (text : String) {url : Url} {c : Char} {rest : List Char}
    (hscheme : url.scheme = "unix".toList) (hpath : url.path = c :: rest) :
    Endpoint.ofUrl text url = .ok (.unix (String.ofList (c :: rest))) := by
  rw [Endpoint.ofUrl, if_pos hscheme, hpath]
  rfl

theorem toList_display_unix (path : String) :
    (Endpoint.unix path).display.toList = "unix://".toList ++ path.toList :=
  String.toList_append

theorem head?_display (endpoint : Endpoint) : endpoint.display.toList.head? ≠ some '/' := by
  cases endpoint with
  | unix path => simp [Endpoint.display]
  | tcp host port => simp [Endpoint.display]

/-- A path behind a slash is read as one that is settled. -/
theorem parse_display_of_slash {path : String} {rest : List Char}
    (hpath : path.toList = '/' :: rest) :
    ∃ stripped, Endpoint.parse (Endpoint.unix path).display =
      .ok (.unix (String.ofList (Net.slashedPath stripped))) ∧
      ((∀ c ∈ rest, 0x20 < c.toNat) → stripped = rest) := by
  have hdisplay : (Endpoint.unix path).display.toList = "unix:///".toList ++ rest := by
    rw [toList_display_unix, hpath]
    rfl
  have hfront : ∀ c ∈ "unix:///".toList, 0x20 < c.toNat := by simp
  obtain ⟨stripped, hstrip⟩ : ∃ stripped, Net.strip ("unix:///".toList ++ rest) =
      "unix:///".toList ++ stripped := ⟨_, Net.strip_append (by decide) hfront rest⟩
  have hurl : Url.parse ("unix:///".toList ++ rest) =
      .ok ⟨"unix".toList, none, none, Net.slashedPath stripped⟩ := by
    have hcut : Net.cutScheme (Net.strip ("unix:///".toList ++ rest)) =
        some ("unix".toList, '/' :: '/' :: '/' :: stripped) := by
      rw [hstrip]
      rfl
    rw [Url.parse_eq hcut (by decide)]
    rfl
  refine ⟨stripped, ?_, fun hrest => ?_⟩
  · rw [parse_eq_ofUrl (head?_display _) (by rw [hdisplay, hurl])]
    exact ofUrl_unix _ rfl rfl
  · have hplain : ∀ c ∈ "unix:///".toList ++ rest, 0x20 < c.toNat := fun c hc =>
      (List.mem_append.1 hc).elim (hfront c) (hrest c)
    have hself := Net.strip_eq_self (by simp) hplain
    exact List.append_cancel_left (hstrip.symm.trans hself)

/-- A host that is read as itself is read back with its port. -/
theorem parse_display_of_isHost {host : String} (h : IsHost host.toList) (port : UInt16) :
    Endpoint.parse (Endpoint.tcp host port).display = .ok (.tcp host port) := by
  have hdisplay : (Endpoint.tcp host port).display.toList =
      "tcp://".toList ++ (host.toList ++ ':' :: Text.Numeral.decimal port.toNat) := by
    simp [Endpoint.display, Text.Numeral.decimalString]
  have hplain : ∀ c ∈ "tcp://".toList ++ (host.toList ++ ':' :: Text.Numeral.decimal port.toNat),
      0x20 < c.toNat := by
    have hscheme : ∀ c ∈ "tcp://".toList, 0x20 < c.toNat := by simp
    have hmarks : ∀ c ∈ ['[', ']', ':'], 0x20 < c.toNat := by simp
    intro c hc
    rcases List.mem_append.1 hc with hc | hc
    · exact hscheme c hc
    · exact (h.mem_written port.toNat c hc).elim Net.blank_lt_of_isHostChar (hmarks c)
  have hurl : Url.parse (Endpoint.tcp host port).display.toList =
      .ok ⟨"tcp".toList, some host.toList, some port.toNat, []⟩ := by
    have hcut : Net.cutScheme (Net.strip (Endpoint.tcp host port).display.toList) =
        some ("tcp".toList,
          '/' :: '/' :: (host.toList ++ ':' :: Text.Numeral.decimal port.toNat)) := by
      rw [hdisplay, Net.strip_eq_self (by simp) hplain]
      rfl
    rw [Url.parse_eq hcut (by decide), Net.parsePlain,
      Net.takeAuthority_written h port.toNat_lt]
    rfl
  have hne : "tcp".toList ≠ "unix".toList := by decide
  rw [parse_eq_ofUrl (head?_display _) hurl, Endpoint.ofUrl, if_neg hne, if_pos rfl]
  simp

/-! ## Own texts -/

theorem slash_of_parse_display {path read : String}
    (h : Endpoint.parse (Endpoint.unix path).display = .ok (.unix read)) :
    read.toList.head? = some '/' := by
  have hfront : ∀ c ∈ "unix://".toList, 0x20 < c.toNat := by simp
  obtain ⟨stripped, hstrip⟩ : ∃ stripped, Net.strip ("unix://".toList ++ path.toList) =
      "unix://".toList ++ stripped := ⟨_, Net.strip_append (by decide) hfront path.toList⟩
  have hcut : Net.cutScheme (Net.strip (Endpoint.unix path).display.toList) =
      some ("unix".toList, '/' :: '/' :: stripped) := by
    rw [toList_display_unix, hstrip]
    rfl
  rw [Endpoint.parse, if_neg (head?_display _), Url.parse_eq hcut (by decide), Net.parsePlain] at h
  rcases hauthority : Net.takeAuthority .plain stripped with error | ⟨host, port, text⟩
  · rw [hauthority] at h
    cases h
  · rw [hauthority] at h
    obtain ⟨hne, hread⟩ := path_of_ofUrl h
    -- behind an authority, a path begins with a slash or there is none
    rcases Net.pathAfterAuthority_slashed text with hnone | ⟨rest, hpath⟩
    · exact absurd hnone hne
    · rw [hread]
      exact congrArg List.head? hpath

/-- What is read back from the text of a path is settled. -/
theorem settled_of_parse_display {path : String} {endpoint : Endpoint}
    (h : Endpoint.parse (Endpoint.unix path).display = .ok endpoint) : endpoint.Settled := by
  refine settled_of_parse h (head?_display _) ?_
  rintro read rfl
  exact slash_of_parse_display h

/-- **An endpoint is read back from its own text** if and only if it is settled. -/
theorem parse_display_iff {endpoint : Endpoint} :
    Endpoint.parse endpoint.display = .ok endpoint ↔ endpoint.Settled := by
  constructor
  · intro h
    cases endpoint with
    | unix path => exact settled_of_parse_display h
    | tcp host port => exact settled_of_parse h (head?_display _) nofun
  · intro h
    cases endpoint with
    | unix path =>
      obtain ⟨rest, hpath, hrest⟩ := h
      obtain ⟨stripped, hparse, hstripped⟩ := parse_display_of_slash hpath
      rw [hparse, hstripped hrest.blank_lt, hrest.slashedPath_eq, ← hpath,
        String.ofList_toList]
    | tcp host port => exact parse_display_of_isHost h port

/-! ## What a worker is told -/

/-- The only argument of a worker that names a socket is the text of the endpoint. -/
theorem daemonSocket_eq {id : Volume.InstanceId} {endpoint : Endpoint} {parent : Nat}
    {named : String}
    (h : "--daemon-socket=" ++ named ∈ Service.workerArguments id endpoint parent) :
    named = endpoint.display := by
  simp only [Service.workerArguments, List.mem_cons, List.not_mem_nil, or_false] at h
  -- the names of the other arguments differ in their third character
  rcases h with h | h | h
  · have hc := congrArg (·.toList[2]?) h
    simp at hc
  · exact String.append_right_inj _ |>.1 h
  · have hc := congrArg (·.toList[2]?) h
    simp at hc

/-- **A worker is told the endpoint that was read**, unless reading has left something to change.
    From its argument it reads that endpoint if and only if the endpoint is settled.  So is every
    host with its port.  A path is settled where it was read from a URL, behind a slash, and never
    where it was the opaque path of a URL; a raw path is the endpoint as it stands, settled or not,
    and is always read as a settled one. -/
theorem daemon_socket_names {text : String} {endpoint : Endpoint}
    (h : Endpoint.parse text = .ok endpoint) :
    (∀ id parent named,
      "--daemon-socket=" ++ named ∈ Service.workerArguments id endpoint parent →
        (Endpoint.parse named = .ok endpoint ↔ endpoint.Settled)) ∧
    (∀ host port, endpoint = .tcp host port → endpoint.Settled) ∧
    (∀ path, endpoint = .unix path → text.toList.head? ≠ some '/' →
      (endpoint.Settled ↔ path.toList.head? = some '/')) ∧
    (text.toList.head? = some '/' → endpoint = .unix text ∧
      ∃ read, Endpoint.parse endpoint.display = .ok read ∧ read.Settled) := by
  refine ⟨fun id parent named hmem => ?_, ?_, ?_, fun htext => ?_⟩
  · rw [daemonSocket_eq hmem]
    exact parse_display_iff
  · rintro host port rfl
    refine settled_of_parse h (fun htext => ?_) nofun
    rw [Endpoint.parse, if_pos htext] at h
    cases h
  · rintro path rfl htext
    constructor
    · rintro ⟨rest, hpath, -⟩
      rw [hpath]
      rfl
    · intro hslash
      refine settled_of_parse h htext ?_
      rintro read heq
      cases heq
      exact hslash
  · rw [Endpoint.parse, if_pos htext] at h
    cases h
    obtain ⟨rest, hpath⟩ := List.head?_eq_some_iff.1 htext
    obtain ⟨stripped, hparse, -⟩ := parse_display_of_slash hpath
    exact ⟨rfl, _, hparse, settled_of_parse_display hparse⟩

/-- A path that is encoded and resolved when it is read is then named by its text. -/
theorem daemon_socket_names_encoded :
    let endpoint := Endpoint.unix "/run/a%20b.sock"
    Endpoint.parse "unix:/run/./a b.sock" = .ok endpoint ∧ endpoint.Settled ∧
      "--daemon-socket=unix:///run/a%20b.sock" ∈ Service.workerArguments ⟨16⟩ endpoint 1 ∧
      Endpoint.parse "unix:///run/a%20b.sock" = .ok endpoint := by
  intro endpoint
  have hparse : Endpoint.parse "unix:/run/./a b.sock" = .ok endpoint := by decide +kernel
  have hmem : "--daemon-socket=" ++ "unix:///run/a%20b.sock" ∈
      Service.workerArguments ⟨16⟩ endpoint 1 := by decide +kernel
  obtain ⟨hnames, -, hpath, -⟩ := daemon_socket_names hparse
  have hsettled : endpoint.Settled := (hpath _ rfl (by decide)).2 (by decide)
  exact ⟨hparse, hsettled, hmem, (hnames _ _ _ hmem).2 hsettled⟩

/-- A raw path with a blank is not: a worker reads another one. -/
theorem raw_path_renamed :
    Endpoint.parse "/run/a b.sock" = .ok (.unix "/run/a b.sock") ∧
      "--daemon-socket=" ++ (Endpoint.unix "/run/a b.sock").display ∈
        Service.workerArguments ⟨16⟩ (.unix "/run/a b.sock") 1 ∧
      Endpoint.parse (Endpoint.unix "/run/a b.sock").display = .ok (.unix "/run/a%20b.sock") := by
  refine ⟨?_, ?_, ?_⟩ <;> decide +kernel

end MountControl.Config
