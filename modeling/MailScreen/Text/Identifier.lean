import MailScreen.Text.Basic
import MailScreen.Text.IdentifierTable

/-!
# Identifiers

An identifier starts with a letter or the low line and goes on with these, digits and combining
marks.
-/
namespace MailScreen

/-- Whether a text is an identifier. -/
def isIdentifier : Text → Bool
  | [] => false
  | c :: rest =>
    inRanges c.toNat identifierStartRanges &&
      rest.all fun d => inRanges d.toNat identifierPartRanges

end MailScreen
