import ChatFlow.Proofs.Endpoint.Exchange
import ChatFlow.Proofs.Json.Layouts

/-!
# Replies in ASCII

A text in ASCII is its own encoding, and it is read as it is written: a reply with such a body tells
the JSON of the text, or the text if it is no JSON (`Reply.tells_iff_of_isAscii`).
-/

namespace ChatFlow

namespace Text

variable {cs : List Char} {s : String}

theorem decodeUtf8_of_isAscii (h : IsAscii cs) : decodeUtf8 (cs.map byte) = cs := by
  induction cs with
  | nil => rfl
  | cons c cs ih =>
    obtain ⟨hc, hcs⟩ := isAscii_cons.1 h
    have hbyte : nextByte none (byte c) = ([c], none) := by
      rw [nextByte, firstByte, if_pos (byte_lt hc.2), toNat_byte hc.2, Char.ofNat_toNat]
    rw [List.map_cons, decodeUtf8, decodeUtf8From, hbyte]
    exact congrArg (c :: ·) (ih hcs)

theorem decode?_utf8_of_isAscii (codecs : Codecs) (h : IsAscii s.toList) :
    codecs.decode? "utf-8" (utf8 s) = some s := by
  have hname : Charset.ofName? "utf-8" = some .utf8 := by decide +kernel
  rw [Codecs.decode?, hname]
  dsimp only
  rw [Charset.decode?, utf8_of_isAscii h, decodeUtf8_of_isAscii h, Option.map_some,
    String.ofList_toList]

end Text

open Text (IsAscii)

namespace Endpoint

variable {reply : Reply} {codecs : Text.Codecs} {s : String}

theorem Reply.header?_of_headers (h : reply.headers = []) (name : String) :
    reply.header? name = none := by
  rw [header?, h]; rfl

theorem Reply.bytes_of_headers (h : reply.headers = []) : reply.bytes = .ok reply.body := by
  have hencodings : reply.encodings = [""] := by
    rw [encodings, header?_of_headers h]
    cbv
  rw [bytes, hencodings]
  rfl

theorem Reply.text?_of_isAscii (hheaders : reply.headers = []) (h : IsAscii s.toList) :
    reply.text? codecs (Text.utf8 s) = some s := by
  have hcharset : reply.charset? = none := by
    rw [Reply.charset?, header?_of_headers hheaders]; rfl
  rw [Reply.text?, hcharset]
  split
  · rename_i hempty
    rw [Text.utf8_of_isAscii h, List.isEmpty_iff, List.map_eq_nil_iff] at hempty
    rw [← String.ofList_toList (s := s), hempty]
  · rw [Option.getD_none, Text.decode?_utf8_of_isAscii codecs h]

/-- A reply in ASCII that says nothing of its encoding tells the JSON of its body, or else the body. -/
theorem Reply.tells_iff_of_isAscii {v : Json} (hheaders : reply.headers = [])
    (hbody : reply.body = Text.utf8 s) (h : IsAscii s.toList) :
    reply.Tells codecs v ↔ Json.read s = .ok v ∨
      ∃ f, Json.read s = .error f ∧ f ≠ .tooDeep ∧ v = .str s := by
  have hbytes := bytes_of_headers hheaders
  rw [hbody] at hbytes
  have hread := Json.readBody_of_isAscii h
  have htext : reply.text? codecs (Text.utf8 s) = some s := text?_of_isAscii hheaders h
  constructor
  · intro htells
    cases htells with
    | json hb hv =>
      cases hbytes.symm.trans hb
      exact Or.inl (hread.symm.trans hv)
    | text hb hf hdeep ht =>
      cases hbytes.symm.trans hb
      cases htext.symm.trans ht
      exact Or.inr ⟨_, hread.symm.trans hf, hdeep, rfl⟩
  · rintro (hv | ⟨f, hf, hdeep, rfl⟩)
    · exact .json hbytes (hread.trans hv)
    · exact .text hbytes (hread.trans hf) hdeep htext

end Endpoint

end ChatFlow
