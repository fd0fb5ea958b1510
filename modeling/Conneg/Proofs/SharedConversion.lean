import Conneg.Proofs.Storage
import Conneg.Proofs.HeaderModes

/-!
# Conneg.Proofs.SharedConversion

Making messages from an accessor in shared storage.

1. `Sharing.toMessage` is the conversion of a payload with the headers of an accessor,
   said in steps of the heap. A missing content type is filled in where the entries
   are, and the message gets a frozen set in the same storage.
2. `Sharing.follows_frozen`: it comes to the same as the conversion with frozen headers
   of the same entries, for trees of any depth. All that it does to the storage is to
   fill in a content type and to hand out a frozen set.
-/

namespace Conneg

namespace Sharing

/-! ## conversion -/

/-- Fills in a content type where there is none. -/
def fillContentType (s : Sharing) : Option MediaType → Sharing
  | none => s
  | some m => (s.setIfAbsent contentTypeName (.string m.text)).2

/-- Makes a message with one converter; its headers are handed out. -/
def convert (s : Sharing) (c : Converter) (p : Payload) :
    Except ConversionError (Option Payload) × Sharing :=
  if (c.canEncode p (some s.map)).value then
    match c.codec.encode p (some s.map) c.form with
    | .error e => (.error (.encode e), s)
    | .ok encoded =>
        (.ok (some encoded), (s.fillContentType (c.defaultContentType encoded)).freeze)
  else (.ok none, s)

mutual
/-- Makes a message of a payload. -/
def toMessage (s : Sharing) : MessageConverter → Payload →
    Except ConversionError (Option Payload) × Sharing
  | .single c, p => s.convert c p
  | .composite delegates, p => s.firstToMessage delegates p

/-- Offers a payload and the headers to converters in order. -/
def firstToMessage (s : Sharing) : List MessageConverter → Payload →
    Except ConversionError (Option Payload) × Sharing
  | [], _ => (.ok none, s)
  | d :: ds, p =>
      match s.toMessage d p with
      | (.ok none, s) => s.firstToMessage ds p
      | answer => answer
end

/-! ## like under frozen headers -/

/-- How a conversion in shared storage follows what comes of it under frozen headers. -/
inductive Follows (s : Sharing) : Except ConversionError (Option Message) →
    Except ConversionError (Option Payload) × Sharing → Prop where
  | declined : Follows s (.ok none) (.ok none, s)
  | failed (e : ConversionError) : Follows s (.error e) (.error e, s)
  | made (m : Message) (type : Option MediaType) (map : m.headers.map = s.map.filled type) :
      Follows s (.ok (some m)) (.ok (some m.payload), (s.fillContentType type).freeze)

/-- One converter: the gate and the codec see the same entries. -/
theorem follows_convert (s : Sharing) (c : Converter) (p : Payload) (f r : Stamp) :
    Follows s (c.toMessage f p (some (.frozen ⟨r, s.map⟩))).value.outcome (s.convert c p) := by
  have hcases := c.toMessage_cases f p (some (.frozen ⟨r, s.map⟩))
  have hentries : (some (Headers.frozen ⟨r, s.map⟩)).map Headers.map = some s.map := rfl
  rw [hentries] at hcases
  unfold convert
  obtain ⟨hgate, hv⟩ | ⟨e, hgate, hencode, hv⟩ | ⟨encoded, hgate, hencode, hv⟩ := hcases
  · rw [hv, hgate]
    exact .declined
  · rw [hv, if_pos hgate, hencode]
    exact .failed (.encode e)
  · rw [hv, if_pos hgate, hencode]
    refine .made _ (c.defaultContentType encoded) ?_
    rw [Headers.map_complete]
    rfl

/-- **Shared storage and frozen headers come to the same**, for a tree of converters:
the same payload or the same error, or nothing from both. The accessor is left alone
unless a message is made; then a content type is filled in as in the message, and a
frozen set is handed out. -/
theorem follows_toMessage (s : Sharing) (t : MessageConverter) (p : Payload) (f r : Stamp) :
    Follows s (t.toMessage f p (some (.frozen ⟨r, s.map⟩))).value.outcome (s.toMessage t p) := by
  induction t with
  | single c =>
    rw [toMessage, MessageConverter.toMessage]
    exact follows_convert s c p f r
  | composite ds ih =>
    rw [toMessage, MessageConverter.toMessage]
    induction ds with
    | nil =>
      rw [firstToMessage]
      exact .declined
    | cons d ds ihds =>
      have hd := ih d List.mem_cons_self
      have hds := ihds fun d hd => ih d (List.mem_cons_of_mem _ hd)
      rw [firstToMessage]
      by_cases hdec : (d.toMessage f p (some (.frozen ⟨r, s.map⟩))).value.outcome = .ok none
      · -- nothing has happened, so the next converter is asked in the same storage
        rw [hdec] at hd
        rw [MessageConverter.firstToMessage_cons_declined
          (MessageConverter.value_of_declined hdec)]
        generalize s.toMessage d p = x at hd
        cases hd
        exact hds
      · rw [MessageConverter.firstToMessage_cons_answered hdec]
        generalize (d.toMessage f p (some (.frozen ⟨r, s.map⟩))).value.outcome = y at hd hdec
        generalize s.toMessage d p = x at hd
        cases hd with
        | declined => exact absurd rfl hdec
        | failed e => exact .failed e
        | made m type hmap => exact .made m type hmap

end Sharing

end Conneg
