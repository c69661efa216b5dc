import MailScreen.Charset.Big5
import MailScreen.Charset.Iso2022

/-!
# East Asian charsets

The charsets in which most characters take several octets.
-/
namespace MailScreen

/-- A charset of East Asian characters. -/
inductive EastAsian where
  | gb2312
  | gbk
  | gb18030
  | hz
  | big5
  | cp950
  | hkscs
  | eucKr
  | cp949
  | johab
  | iso2022Kr
  | shiftJis
  | cp932
  | eucJp
  | iso2022Jp
  | iso2022Jp1
  | iso2022Jp2
  | iso2022JpExt
  | iso2022Jp3
  | iso2022Jp2004
  | shiftJisX0213
  | shiftJis2004
  | eucJisX0213
  | eucJis2004
  deriving DecidableEq, Repr

namespace EastAsian

/-- The codec of a charset, with the type of its states. -/
def codec : EastAsian → (σ : Type) × Codec σ
  | gb2312 => ⟨_, Chinese.gb2312Charset.codec⟩
  | gbk => ⟨_, Chinese.gbk.codec⟩
  | gb18030 => ⟨_, Chinese.gb18030⟩
  | hz => ⟨_, Chinese.hz⟩
  | big5 => ⟨_, Big5.plain.codec⟩
  | cp950 => ⟨_, Big5.windows.codec⟩
  | hkscs => ⟨_, Big5.hongKongSet.codec⟩
  | eucKr => ⟨_, Korean.eucKr⟩
  | cp949 => ⟨_, Korean.cp949.codec⟩
  | johab => ⟨_, Korean.johab.codec⟩
  | iso2022Kr => ⟨_, Iso2022.korean.codec⟩
  | shiftJis => ⟨_, Japanese.shiftJis.codec⟩
  | cp932 => ⟨_, Japanese.cp932.codec⟩
  | eucJp => ⟨_, Japanese.eucJp⟩
  | iso2022Jp => ⟨_, Iso2022.japanese.codec⟩
  | iso2022Jp1 => ⟨_, Iso2022.japanese1.codec⟩
  | iso2022Jp2 => ⟨_, Iso2022.japanese2.codec⟩
  | iso2022JpExt => ⟨_, Iso2022.japaneseExtended.codec⟩
  | iso2022Jp3 => ⟨_, (Iso2022.japaneseEdition .first).codec⟩
  | iso2022Jp2004 => ⟨_, (Iso2022.japaneseEdition .second).codec⟩
  | shiftJisX0213 => ⟨_, (Japanese.Edition.first.shiftJis).codec⟩
  | shiftJis2004 => ⟨_, (Japanese.Edition.second.shiftJis).codec⟩
  | eucJisX0213 => ⟨_, Japanese.Edition.first.euc⟩
  | eucJis2004 => ⟨_, Japanese.Edition.second.euc⟩

/-- The text that octets encode. -/
def decode (charset : EastAsian) (bytes : Octets) : Text := charset.codec.2.decode bytes

/-- The octets of a text. -/
def encode (charset : EastAsian) (t : Text) : Octets := charset.codec.2.encode t

end EastAsian
end MailScreen
