import SwitchLab.Unicode.Binary
import SwitchLab.Unicode.Category
/-!
Properties of characters that follow from their categories and from lists of exceptions.
-/
namespace SwitchLab.Unicode

def lowercase : CharSet := (inCategory "Ll").union (listed "Other_Lowercase")

def uppercase : CharSet := (inCategory "Lu").union (listed "Other_Uppercase")

def cased : CharSet := .unions [lowercase, uppercase, inCategory "Lt"]

def alphabetic : CharSet :=
  .unions [lowercase, uppercase, inCategories ["Lt", "Lm", "Lo", "Nl"], listed "Other_Alphabetic"]

def caseIgnorable : CharSet :=
  (inCategories ["Mn", "Me", "Cf", "Lm", "Sk"]).union
    (.ofText "27 2E 3A B7 387 55F 5F4 2018-2019 2024 2027 FE13 FE52 FE55 FF07 FF0E FF1A")

def changesWhenCasemapped : CharSet :=
  .unions [listed "Changes_When_Lowercased", listed "Changes_When_Uppercased",
    listed "Changes_When_Titlecased"]

def graphemeExtend : CharSet :=
  (inCategories ["Me", "Mn"]).union (listed "Other_Grapheme_Extend")

def graphemeBase : CharSet :=
  assigned.diff ((inCategories ["Cc", "Cf", "Co", "Zl", "Zp"]).union graphemeExtend)

/-- Signs of syntax and blanks of patterns belong to no identifier. -/
def patternSigns : CharSet := (listed "Pattern_Syntax").union (listed "Pattern_White_Space")

def idStart : CharSet :=
  (CharSet.unions [inCategories ["L", "Nl"], listed "Other_ID_Start"]).diff patternSigns

def idContinue : CharSet :=
  (CharSet.unions [idStart, inCategories ["Mn", "Mc", "Nd", "Pc"], listed "Other_ID_Continue"]).diff
    patternSigns

/-- Characters that a compatible normal form takes out of identifiers. -/
def unstable : CharSet :=
  .ofText "37A 309B-309C FC5E-FC63 FDFA-FDFB FE70 FE72 FE74 FE76 FE78 FE7A FE7C FE7E"

def xidStart : CharSet := idStart.diff (unstable.union (.ofText "E33 EB3 FF9E-FF9F"))

def xidContinue : CharSet := idContinue.diff unstable

/-- Characters without a visible form, unless they are known to have one. -/
def defaultIgnorable : CharSet :=
  (CharSet.unions [listed "Other_Default_Ignorable_Code_Point", inCategory "Cf",
    listed "Variation_Selector"]).diff
      (.unions [listed "White_Space", listed "Prepended_Concatenation_Mark",
        .ofText "FFF9-FFFB 13430-1343F"])

def derivedProperties : List Derived :=
  [⟨["alpha", "Alphabetic"], fun _ => alphabetic⟩,
   ⟨["CI", "Case_Ignorable"], fun _ => caseIgnorable⟩,
   ⟨["Cased"], fun _ => cased⟩,
   ⟨["CWCM", "Changes_When_Casemapped"], fun _ => changesWhenCasemapped⟩,
   ⟨["DI", "Default_Ignorable_Code_Point"], fun _ => defaultIgnorable⟩,
   ⟨["Gr_Base", "Grapheme_Base"], fun _ => graphemeBase⟩,
   ⟨["Gr_Ext", "Grapheme_Extend"], fun _ => graphemeExtend⟩,
   ⟨["IDC", "ID_Continue"], fun _ => idContinue⟩,
   ⟨["IDS", "ID_Start"], fun _ => idStart⟩,
   ⟨["lower", "Lowercase"], fun _ => lowercase⟩,
   ⟨["Math"], fun _ => (inCategory "Sm").union (listed "Other_Math")⟩,
   ⟨["upper", "Uppercase"], fun _ => uppercase⟩,
   ⟨["XIDC", "XID_Continue"], fun _ => xidContinue⟩,
   ⟨["XIDS", "XID_Start"], fun _ => xidStart⟩]

def findBinary? (loose : String) : Option CharSet :=
  (Derived.find? loose derivedProperties).or (findSet? loose binaryEntries)

end SwitchLab.Unicode
