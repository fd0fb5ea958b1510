import Conneg.Codec.Chameleon
import Conneg.Codec.Counter
import Conneg.Proofs.Filling
import Conneg.Proofs.FirstLeaf

/-!
# Conneg.Proofs.HeaderFrame

What making a message does to the headers that were given.

1. A message is made by the first leaf that does not decline, so its headers are
   the given ones, filled in with that leaf's content type for the encoded payload
   (`filled_of_first`).
2. Filling in keeps a `contentType` entry whatever its value, and every other entry
   in any case; it can add one entry only (`HeaderMap.filled`).
3. Main statement: `headers_of_made`, for trees of any depth.
-/

namespace Conneg

/-- The entries that headers hold; none given are no entries. -/
def Headers.entriesOf (headers : Option Headers) : HeaderMap :=
  (headers.map Headers.map).getD .empty

/-- Each entry of headers that may be missing altogether. -/
theorem Headers.get?_entriesOf (headers : Option Headers) (name : String) :
    (entriesOf headers).get? name = (headers.map Headers.map).bind (·.get? name) := by
  cases headers <;> rfl

namespace MessageConverter

section

variable {t : MessageConverter} {c : Converter} {m : Message} {fresh : Stamp} {p : Payload}
  {headers : Option Headers}

/-- The payload is the one that the first leaf to answer encoded, and the headers are
those that it filled in. -/
theorem filled_of_first (hfirst : FirstAnswering (·.DeclinesPayload fresh p headers) t.leaves c)
    (h : (t.toMessage fresh p headers).value.outcome = .ok (some m)) :
    c.codec.encode p (headers.map Headers.map) c.form = .ok m.payload ∧
      m.headers.map =
        (Headers.entriesOf headers).filled (c.codec.defaultContentType m.payload c.supported) := by
  have hmade : (c.toMessage fresh p headers).value.outcome = .ok (some m) := by
    rw [← value_toMessage_of_first hfirst]
    exact h
  obtain ⟨-, hencode, hcomplete⟩ := Converter.encoded_of_made hmade
  have hmap := Headers.map_complete fresh (c.defaultContentType m.payload) headers
  rw [← hcomplete] at hmap
  exact ⟨hencode, hmap⟩

end

/-- **What happens to the headers** of a message that a tree makes, for every header
map, however it is given. An existing `contentType` entry is kept, be its value a
media type, another text, a number or null; then the headers are the given ones.
All other entries are kept in any case, and no other one is added. Without a
`contentType` there is one more entry, if the leaf that answers first has a content
type for the encoded payload: the text of that content type. -/
theorem headers_of_made {t : MessageConverter} {fresh : Stamp} {p : Payload}
    {headers : Option Headers} {m : Message}
    (h : (t.toMessage fresh p headers).value.outcome = .ok (some m)) :
    let given := Headers.entriesOf headers
    (∀ value, given.get? contentTypeName = some value → m.headers.map = given) ∧
      (∀ name, name ≠ contentTypeName → m.headers.map.get? name = given.get? name) ∧
      (∃ c, FirstAnswering (·.DeclinesPayload fresh p headers) t.leaves c) ∧
      ∀ c, FirstAnswering (·.DeclinesPayload fresh p headers) t.leaves c →
        c.codec.encode p (headers.map Headers.map) c.form = .ok m.payload ∧
        (given.get? contentTypeName = none →
          (c.codec.defaultContentType m.payload c.supported = none → m.headers.map = given) ∧
          ∀ type, c.codec.defaultContentType m.payload c.supported = some type →
            m.headers.map = given.insert contentTypeName (.string type.text)) := by
  intro given
  have hanswers : (t.toMessage fresh p headers).value.outcome ≠ .ok none := by simp [h]
  obtain ⟨c, hc⟩ := exists_first_of_made hanswers
  have hfilled := (filled_of_first hc h).2
  refine ⟨?_, ?_, ⟨c, hc⟩, ?_⟩
  · intro value hvalue
    rw [hfilled]
    exact HeaderMap.filled_of_contains (HeaderMap.contains_iff.2 ⟨value, hvalue⟩)
  · intro name hname
    rw [hfilled, HeaderMap.get?_filled, if_neg hname]
  · intro d hd
    obtain ⟨hencode, hfilled⟩ := filled_of_first hd h
    refine ⟨hencode, fun habsent => ⟨fun hnone => ?_, fun type htype => ?_⟩⟩
    · rw [hfilled, hnone]
      rfl
    · rw [hfilled, htype]
      exact HeaderMap.filled_of_not_contains (HeaderMap.contains_eq_false_iff.2 habsent)

/-- Without a `contentType` the codec's content type for the encoded text is filled
in. A truth value in its place stays, though it is no content type. -/
theorem headers_of_made_chameleon :
    let reflecting : Converter := .withForm (.ofTypes .chameleon [.textPlain, .applicationJson]) .text
    let t : MessageConverter := composite [single (.ofCodec .counter), single reflecting]
    let bare : HeaderMap := HeaderMap.empty.insert "priority" .null
    let odd : HeaderMap := bare.insert contentTypeName (.boolean true)
    (∃ m, (t.toMessage 1 (.text "a") (some (.frozen ⟨0, bare⟩))).value.outcome = .ok (some m) ∧
        m.headers.map = bare.insert contentTypeName (.string "application/json")) ∧
      ∃ m, (t.toMessage 1 (.text "a") (some (.accessor (.ofMap 0 odd)))).value.outcome =
          .ok (some m) ∧
        m.headers.map = odd := by
  intro reflecting t bare odd
  constructor
  · have hmade : (t.toMessage 1 (.text "a") (some (.frozen ⟨0, bare⟩))).value.outcome =
        .ok (some ⟨.text "1 headers",
          ⟨1, bare.insert contentTypeName (.string "application/json")⟩⟩) := by
      subst t reflecting odd bare
      rfl
    have hfirst : FirstAnswering (·.DeclinesPayload 1 (.text "a") (some (.frozen ⟨0, bare⟩)))
        t.leaves reflecting := by
      refine ⟨[.ofCodec .counter], [], rfl, List.forall_mem_singleton.2 rfl, ?_⟩
      intro hdeclines
      cases hdeclines
    obtain ⟨-, -, -, hleaf⟩ := headers_of_made hmade
    obtain ⟨-, habsent⟩ := hleaf reflecting hfirst
    exact ⟨_, hmade, (habsent rfl).2 .applicationJson rfl⟩
  · have hmade : (t.toMessage 1 (.text "a") (some (.accessor (.ofMap 0 odd)))).value.outcome =
        .ok (some ⟨.text "2 headers", ⟨0, odd⟩⟩) := by
      subst t reflecting odd bare
      rfl
    exact ⟨_, hmade, (headers_of_made hmade).1 (.boolean true) rfl⟩

end MessageConverter

end Conneg
