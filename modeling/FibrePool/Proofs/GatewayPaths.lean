import FibrePool.Gateway.Client
import FibrePool.Proofs.UrlPaths
import FibrePool.Volume.Attach

/-!
# Where calls to a gateway go

The address of a call is the endpoint with the escaped names of the call behind it, so its segments
come through to the server behind the path of the endpoint.

One thing gets past the escapes: points are plain, so a name of one or two points is a step that is
carried out (`Gateway.points_lead_out_of_guests`).  For every other guest
`Gateway.calls_stay_below_endpoint` holds.
-/

namespace FibrePool

set_option autoImplicit false

namespace Gateway

variable {gateway : Gateway} {url : Url}

/-- The endpoint does not end with a character that is cut off. -/
def EndsVisibly (gateway : Gateway) : Prop :=
  ∀ c, gateway.endpoint.toList.getLast? = some c → Url.isEdge c = false

theorem exists_slashes (gateway : Gateway) :
    ∃ count, gateway.endpoint.toList = gateway.base ++ List.replicate count '/' := by
  refine ⟨(gateway.endpoint.toList.reverse.takeWhile (· == '/')).length, ?_⟩
  have slashes : gateway.endpoint.toList.reverse.takeWhile (· == '/') =
      List.replicate (gateway.endpoint.toList.reverse.takeWhile (· == '/')).length '/' :=
    List.eq_replicate_of_mem fun c member => by simpa using List.mem_takeWhile_imp member
  have parts := List.takeWhile_append_dropWhile (p := (· == '/'))
    (l := gateway.endpoint.toList.reverse)
  have back := congrArg List.reverse parts
  rw [List.reverse_append, List.reverse_reverse] at back
  rw [← List.reverse_replicate, ← slashes]
  exact back.symm

/-- What the addresses of calls begin with: a scheme, and the rest of the endpoint without the
slashes at its end. -/
theorem exists_front (parsed : Url.parse gateway.endpoint = .ok url) (http : url.isHttp = true)
    (plain : ∀ c ∈ gateway.endpoint.toList, c ≠ '?' ∧ c ≠ '#') :
    ∃ word chars count, Url.fronted gateway.base = word ++ ':' :: chars ∧
      (∀ other, Url.readScheme (word ++ ':' :: other) = some (url.scheme, other)) ∧
      Url.behind chars ≠ [] ∧ (∀ c ∈ Url.behind chars, c ≠ '?' ∧ c ≠ '#') ∧
      (gateway.EndsVisibly → Url.significant gateway.endpoint =
        word ++ ':' :: (chars ++ List.replicate count '/')) := by
  obtain ⟨count, whole⟩ := gateway.exists_slashes
  obtain ⟨edge, fronted, visible⟩ := Url.fronted_eq gateway.endpoint
  obtain ⟨word, rest, counts, named, some⟩ := Url.exists_of_parse parsed http
  have slashes : ∀ c ∈ List.replicate count '/', Url.isEdge c = false := by
    intro c member
    rw [List.eq_of_mem_replicate member]
    decide
  have ends : count = 0 ∨ edge = [] := by
    cases count with
    | zero => exact .inl rfl
    | succ count =>
      refine .inr (visible fun c last => slashes c ?_)
      rw [whole, List.getLast?_append_of_ne_nil _ (by simp)] at last
      exact List.mem_of_getLast? last
  rw [whole, Url.fronted_append _ slashes, counts] at fronted
  obtain ⟨chars, front, same⟩ := Url.exists_front fronted ends
  refine ⟨word, chars, count, front, named, fun empty => some ?_, fun c member => ?_, fun shown => ?_⟩
  · rw [Url.behind_eq_nil] at empty ⊢
    intro c listed
    have among : c ∈ chars ++ List.replicate count '/' := by simp [same, listed]
    rcases List.mem_append.1 among with among | among
    · exact empty c among
    · exact .inl (List.eq_of_mem_replicate among)
  · rcases Url.mem_behind member with rfl | listed
    · decide
    · have among : c ∈ Url.fronted gateway.base := by simp [front, listed]
      refine plain c ?_
      rw [whole]
      exact List.mem_append_left _ (Url.mem_fronted among)
  · rw [counts, same, visible shown, List.append_nil]

/-! ### Segments of calls -/

/-- The segments that a call appends to the endpoint. -/
def segmentsOf (call : Call) : List (List Char) :=
  (namesOf call).map fun name => Percent.encode name.toList

/-- The guest that a call is about. -/
def guestOf : Call → Option String
  | .listDevices _ => none
  | .guestExists user => some user
  | .dedicate _ user => some user
  | .undedicate _ user => some user
  | .configureAttach volume => some volume.user
  | .configureDetach removal => some removal.volume.user

/-- The device that a call is about. -/
def deviceOf : Call → Option DeviceId
  | .dedicate device _ => some device
  | .undedicate device _ => some device
  | _ => none

variable {call other : Call} {user user' : String}

theorem mem_namesOf {name : String} (guest : guestOf call = some user)
    (named : name ∈ namesOf call) :
    name = user ∨ name ∈ ["guests", "fcp", "volumes", "attach", "detach"] ∨
      ∃ device : DeviceId, name = device.text := by
  cases call <;> cases guest <;> simp [namesOf] at named
  case guestExists => rcases named with rfl | rfl <;> simp
  all_goals rcases named with rfl | rfl | rfl | rfl <;> simp

theorem text_ne_of_length {device : DeviceId} {text : String} (short : text.length ≠ 4) :
    device.text ≠ text := by
  rintro rfl
  exact short (by simp [DeviceId.text, Text.hexWord])

theorem isName_of_mem_segmentsOf (guest : guestOf call = some user) (one : user ≠ ".")
    (two : user ≠ "..") : ∀ segment ∈ segmentsOf call, Url.IsName segment := by
  intro segment member
  obtain ⟨name, named, rfl⟩ := List.mem_map.1 member
  rcases mem_namesOf guest named with rfl | fixed | ⟨device, rfl⟩
  · exact Percent.isName_encode one two
  · have apart : ∀ name ∈ ["guests", "fcp", "volumes", "attach", "detach"],
        name ≠ "." ∧ name ≠ ".." := by decide
    exact Percent.isName_encode (apart name fixed).1 (apart name fixed).2
  · exact Percent.isName_encode (text_ne_of_length (by decide)) (text_ne_of_length (by decide))

theorem isMeek_of_mem_segmentsOf {segment : List Char} (member : segment ∈ segmentsOf call) :
    ∀ c ∈ segment, Percent.IsMeek c := by
  obtain ⟨name, _, rfl⟩ := List.mem_map.1 member
  exact fun c written => Percent.isMeek_of_mem_encode written

theorem slash_notMem {segment : List Char} (member : segment ∈ segmentsOf call) :
    '/' ∉ segment :=
  fun listed => (isMeek_of_mem_segmentsOf member '/' listed).mark (by decide)

theorem segmentsOf_ne_nil (call : Call) : segmentsOf call ≠ [] := by
  cases call <;> simp [segmentsOf, namesOf]

theorem escape_segmentsOf (call : Call) :
    (segmentsOf call).map (Url.escape Url.isEscapedInPath) = segmentsOf call := by
  rw [segmentsOf, List.map_map]
  exact List.map_congr_left fun name _ => Percent.escape_encode name.toList

/-- **Every segment of a call is read as the bytes of its name.** -/
theorem decode_segmentsOf (call : Call) : (segmentsOf call).map Percent.decode =
    (namesOf call).map fun name => Text.Utf8.encode name.toList := by
  rw [segmentsOf, List.map_map]
  exact List.map_congr_left fun name _ => Percent.decode_encode name.toList

/-- Calls with the same segments are about the same names. -/
theorem namesOf_eq_of_segmentsOf_eq (same : segmentsOf call = segmentsOf other) :
    namesOf call = namesOf other :=
  List.map_injective_iff.2
    (fun _ _ equal => String.toList_inj.1 (Percent.encode_injective equal)) same

theorem device_of_text {device device' : DeviceId} (same : device.text = device'.text) :
    device = device' := by
  have digits : Text.hexWord device.toNat = Text.hexWord device'.toNat := by
    simpa [DeviceId.text] using congrArg String.toList same
  have numbers := congrArg Text.hexNumber? digits
  rw [Text.hexNumber?_word (show device.toNat < 65536 from device.number.isLt),
    Text.hexNumber?_word (show device'.toNat < 65536 from device'.number.isLt)] at numbers
  obtain ⟨number⟩ := device
  obtain ⟨number'⟩ := device'
  exact congrArg DeviceId.mk (Fin.ext (Option.some.inj numbers))

/-- The names of a call tell its guest and its device. -/
theorem about_eq_of_namesOf_eq (same : namesOf call = namesOf other)
    (guest : guestOf call = some user) (guest' : guestOf other = some user') :
    user = user' ∧ deviceOf call = deviceOf other := by
  have second : (namesOf call)[1]? = some user := by
    cases call <;> cases guest <;> rfl
  have second' : (namesOf other)[1]? = some user' := by
    cases other <;> cases guest' <;> rfl
  refine ⟨Option.some.inj (by rw [← second, same, second']), ?_⟩
  cases call <;> cases other <;> simp_all [namesOf, deviceOf] <;> exact device_of_text same.2

theorem mem_pathText {c : Char} (member : c ∈ Url.pathText (segmentsOf call)) :
    c = '/' ∨ Percent.IsMeek c := by
  obtain ⟨segment, listed, among⟩ := List.mem_flatMap.1 member
  rcases List.mem_cons.1 among with rfl | among
  · exact .inl rfl
  · exact .inr (isMeek_of_mem_segmentsOf listed c among)

theorem isTail_pathText (call : Call) : Url.IsTail (Url.pathText (segmentsOf call)) where
  rooted c first := by
    obtain ⟨segment, more, parts⟩ := List.exists_cons_of_ne_nil (segmentsOf_ne_nil call)
    rw [parts, Url.pathText_cons] at first
    exact (Option.some.inj first).symm
  marks c member := by
    rcases mem_pathText member with rfl | meek
    · decide
    · refine ⟨?_, ?_, ?_⟩ <;> rintro rfl <;> exact meek.mark (by decide)

/-- What counts in the address of a call. -/
theorem significant_address (gateway : Gateway) (call : Call) :
    Url.significant (gateway.address (namesOf call)) =
      Url.fronted gateway.base ++ Url.pathText (segmentsOf call) := by
  have whole : (gateway.address (namesOf call)).toList =
      gateway.base ++ Url.pathText (segmentsOf call) := by
    rw [address, String.toList_ofList, segmentsOf, Url.pathText, List.flatMap_map]
  have shown : ∀ c ∈ Url.pathText (segmentsOf call), Url.isEdge c = false := by
    intro c member
    rcases mem_pathText member with rfl | meek
    · decide
    · simpa [Url.isEdge] using meek.shown
  have some : Url.pathText (segmentsOf call) ≠ [] := by
    obtain ⟨segment, more, parts⟩ := List.exists_cons_of_ne_nil (segmentsOf_ne_nil call)
    rw [parts, Url.pathText_cons]
    exact List.cons_ne_nil _ _
  obtain ⟨edge, fronted, visible⟩ := Url.fronted_eq (gateway.address (namesOf call))
  rw [whole, Url.fronted_append _ shown, visible, List.append_nil] at fronted
  · exact fronted.symm
  · intro c last
    rw [whole, List.getLast?_append_of_ne_nil _ some] at last
    exact shown c (List.mem_of_getLast? last)

/-! ### Where calls go -/

/-- The call is about a guest whose name is not made of one or two points. -/
def IsAbout (call : Call) (user : String) : Prop :=
  guestOf call = some user ∧ user ≠ "." ∧ user ≠ ".."

theorem target_of_parse {place : Except UrlFault (Option String × Option Nat)}
    {path : List (List Char)} (request : GatewayRequest) (http : url.isHttp = true)
    (parsed : Url.parse request.address = place.map fun place =>
      { scheme := url.scheme, host := place.1, port := place.2, query := none, path }) :
    request.target = place.toOption.map fun _ => Url.pathText path := by
  rw [GatewayRequest.target, parsed]
  cases place with
  | error fault => rfl
  | ok place => exact if_pos http

/-- Below the same place different segments are different paths. -/
theorem segments_eq_of_pathText_eq {below : List (List Char)}
    (same : Url.pathText (below ++ segmentsOf call) = Url.pathText (below ++ segmentsOf other)) :
    segmentsOf call = segmentsOf other := by
  refine Url.pathText_injective (fun _ => slash_notMem) (fun _ => slash_notMem) ?_
  rw [Url.pathText, Url.pathText, List.flatMap_append, List.flatMap_append] at same
  exact List.append_cancel_left same

/-- **Calls stay below the endpoint, and every guest and device has paths of its own.**  The path
that the server sees for a call is the path of the endpoint, up to slashes at its end, with the
segments of the call behind it.  Each segment is read as the bytes of its name, and no segment
contains a slash, so calls for different guests or devices never have the same path.  This is so for
every guest whose name is not made of one or two points.  (An endpoint with blanks at its end has
them in the middle of the address of a call; then there is no such address, or they stay in the
path.) -/
theorem calls_stay_below_endpoint (parsed : Url.parse gateway.endpoint = .ok url)
    (http : url.isHttp = true) (plain : ∀ c ∈ gateway.endpoint.toList, c ≠ '?' ∧ c ≠ '#') :
    ∃ ground : Option (List (List Char)),
      (gateway.EndsVisibly → ∃ below count,
        ground = some below ∧ url.path = below ++ List.replicate count []) ∧
      (∀ call user, IsAbout call user →
        (gateway.request call).target =
          ground.map (fun below => Url.pathText (below ++ segmentsOf call)) ∧
        (segmentsOf call).map Percent.decode =
          (namesOf call).map (fun name => Text.Utf8.encode name.toList) ∧
        ∀ segment ∈ segmentsOf call, '/' ∉ segment) ∧
      ∀ call user other user', IsAbout call user → IsAbout other user' →
        (gateway.request call).target ≠ none →
        (gateway.request call).target = (gateway.request other).target →
          user = user' ∧ deviceOf call = deviceOf other := by
  obtain ⟨word, chars, count, front, named, filled, marks, visible⟩ :=
    exists_front parsed http plain
  have special := Url.isSpecial_of_isHttp http
  have rooted := Url.isRooted_behindHost marks
  -- the host is read once and for all; only the path depends on the call
  generalize read : Url.placeOf url.scheme ((Url.behind chars).takeWhile Url.inAuthority) = place
  have goes (call : Call) (user : String) (about : IsAbout call user) :
      (gateway.request call).target =
        (place.toOption.map fun _ => Url.ground (Url.behindHost (Url.behind chars))).map
          fun below => Url.pathText (below ++ segmentsOf call) := by
    obtain ⟨guest, one, two⟩ := about
    have counts : Url.significant (gateway.address (namesOf call)) =
        word ++ ':' :: (chars ++ Url.pathText (segmentsOf call)) := by
      rw [significant_address, front, List.append_assoc, List.cons_append]
    have path := Url.segmentsOf_append rooted (segmentsOf_ne_nil call)
      (fun _ member => slash_notMem member) (isName_of_mem_segmentsOf guest one two)
    rw [escape_segmentsOf] at path
    have address := Url.parse_append counts named special filled marks (isTail_pathText call)
    rw [path, read] at address
    rw [target_of_parse (gateway.request call) http address, Option.map_map]
    rfl
  refine ⟨place.toOption.map fun _ => Url.ground (Url.behindHost (Url.behind chars)),
    fun shown => ?_, fun call user about => ?_, ?_⟩
  · rw [Url.parse_append (visible shown) named special filled marks (Url.isTail_replicate count),
      read] at parsed
    obtain ⟨empty, path⟩ := Url.segmentsOf_slashes rooted count
    cases place with
    | error fault => cases parsed
    | ok place => exact ⟨_, empty, rfl, by rw [← Except.ok.inj parsed, ← path]⟩
  · exact ⟨goes call user about, decode_segmentsOf call, fun _ => slash_notMem⟩
  · intro call user other user' about about' sent same
    rw [goes call user about] at sent same
    rw [goes other user' about'] at same
    cases place with
    | error fault => exact absurd rfl sent
    | ok place =>
      have segments := segments_eq_of_pathText_eq (Option.some.inj same)
      exact about_eq_of_namesOf_eq (namesOf_eq_of_segmentsOf_eq segments) about.1 about'.1

/-- A gateway below a path that ends with a slash. -/
def Sample.below : Gateway := { endpoint := "http://gw:8080/api/", token := none, retries := false }

/-- The address of its endpoint. -/
def Sample.place : Url where
  scheme := "http"
  host := some "gw"
  port := some 8080
  path := ["api".toList, []]
  query := none

theorem Sample.parsed : Url.parse Sample.below.endpoint = .ok Sample.place := by
  decide +kernel

/-- A guest with a slash in its name stays below the endpoint. -/
theorem calls_stay_below_endpoint_with_slash :
    Url.parse Sample.below.endpoint = .ok Sample.place ∧ Sample.place.isHttp = true ∧
      IsAbout (.dedicate (.ofNat 0x1a00) "A/B") "A/B" ∧
      (Sample.below.request (.dedicate (.ofNat 0x1a00) "A/B")).target =
        some "/api/guests/A%2FB/fcp/1a00".toList ∧
      ∃ below count, Sample.place.path = below ++ List.replicate count [] ∧
        (Sample.below.request (.dedicate (.ofNat 0x1a00) "A/B")).target =
          some (Url.pathText (below ++ segmentsOf (.dedicate (.ofNat 0x1a00) "A/B"))) := by
  have about : IsAbout (.dedicate (.ofNat 0x1a00) "A/B") "A/B" := ⟨rfl, by decide, by decide⟩
  have plain : ∀ c ∈ Sample.below.endpoint.toList, c ≠ '?' ∧ c ≠ '#' := by
    simp [Sample.below]
  have shown : Sample.below.EndsVisibly := by
    intro c last
    cases last
    decide
  refine ⟨Sample.parsed, by decide, about, by decide +kernel, ?_⟩
  obtain ⟨ground, visible, goes, _⟩ := calls_stay_below_endpoint Sample.parsed (by decide) plain
  obtain ⟨below, count, rfl, path⟩ := visible shown
  exact ⟨below, count, path, (goes _ _ about).1⟩

/-- A gateway without a path. -/
def Sample.bare : Gateway := { endpoint := "http://gw", token := none, retries := false }

/-- **A guest whose name is two points is a way out**: points are not escaped, so they are carried
out like those of a path, and what should stay below the guests does not. -/
theorem points_lead_out_of_guests :
    ∃ url, Url.parse Sample.bare.endpoint = .ok url ∧ url.isHttp = true ∧
      (∀ c ∈ Sample.bare.endpoint.toList, c ≠ '?' ∧ c ≠ '#') ∧ Sample.bare.EndsVisibly ∧
      Volume.requiredGuest ".." = .ok ".." ∧
      (Sample.bare.request (.dedicate (.ofNat 0x1a00) "..")).target = some "/fcp/1a00".toList ∧
      ∀ below, (Sample.bare.request (.dedicate (.ofNat 0x1a00) "..")).target ≠
        some (Url.pathText (below ++ segmentsOf (.dedicate (.ofNat 0x1a00) ".."))) := by
  have target : (Sample.bare.request (.dedicate (.ofNat 0x1a00) "..")).target =
      some "/fcp/1a00".toList := by decide +kernel
  refine ⟨⟨"http", some "gw", none, [[]], none⟩, by decide +kernel, by decide,
    by simp [Sample.bare], ?_, by decide +kernel, target, fun below same => ?_⟩
  · intro c last
    cases last
    decide
  · -- the path that was sent is shorter than that of the segments alone
    rw [target, Url.pathText, List.flatMap_append, Option.some.injEq] at same
    have lengths := congrArg List.length same
    rw [List.length_append] at lengths
    have needed : ((segmentsOf (.dedicate (.ofNat 0x1a00) "..")).flatMap
        fun segment => '/' :: segment).length = 19 := by decide +kernel
    rw [needed] at lengths
    have sent : "/fcp/1a00".toList.length = 9 := by decide
    omega

end Gateway

end FibrePool
