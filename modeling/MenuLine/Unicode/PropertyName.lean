import MenuLine.Unicode.CharSet

/-!
# Names of properties

Every name of a property that the standard knows, whether or not its values
can be asked for. A few names of values stand for no character at all.
-/

namespace MenuLine.Unicode

def propertyNames : List String :=
  ["age ahex alpha alphabetic asciihexdigit bc bidic bidiclass bidicontrol bidim bidimirrored",
   "bidimirroringglyph bidipairedbracket bidipairedbrackettype blk block bmg bpb bpt",
   "canonicalcombiningclass cased casefolding caseignorable ccc ce cf changeswhencasefolded",
   "changeswhencasemapped changeswhenlowercased changeswhennfkccasefolded changeswhentitlecased",
   "changeswhenuppercased ci cjkaccountingnumeric cjkcompatibilityvariant cjkiicore",
   "cjkirggsource cjkirghsource cjkirgjsource cjkirgkpsource cjkirgksource cjkirgmsource",
   "cjkirgssource cjkirgtsource cjkirguksource cjkirgusource cjkirgvsource cjkothernumeric",
   "cjkprimarynumeric cjkrsunicode compex compositionexclusion cwcf cwcm cwkcf cwl cwt cwu dash",
   "decompositionmapping decompositiontype defaultignorablecodepoint dep deprecated di dia",
   "diacritic dm dt ea eastasianwidth ebase ecomp emod emoji emojicomponent emojimodifier",
   "emojimodifierbase emojipresentation epres equideo equivalentunifiedideograph expandsonnfc",
   "expandsonnfd expandsonnfkc expandsonnfkd ext extendedpictographic extender extpict fcnfkc",
   "fcnfkcclosure fullcompositionexclusion gc gcb generalcategory graphemebase",
   "graphemeclusterbreak graphemeextend graphemelink grbase grext grlink hangulsyllabletype hex",
   "hexdigit hst hyphen idc idcompatmathcontinue idcompatmathstart idcontinue ideo ideographic",
   "ids idsb idsbinaryoperator idst idstart idstrinaryoperator idsu idsunaryoperator incb",
   "indicconjunctbreak indicpositionalcategory indicsyllabiccategory inpc insc isc jamoshortname",
   "jg joinc joincontrol joininggroup joiningtype jsn jt kaccountingnumeric",
   "kcompatibilityvariant kehcat kehdesc kehhg kehifao kehjsesh kehnomirror kehnorotate kiicore",
   "kirggsource kirghsource kirgjsource kirgkpsource kirgksource kirgmsource kirgssource",
   "kirgtsource kirguksource kirgusource kirgvsource kothernumeric kprimarynumeric krsunicode lb",
   "lc linebreak loe logicalorderexception lower lowercase lowercasemapping math mcm",
   "modifiercombiningmark na na1 name namealias nchar nfcqc nfcquickcheck nfdqc nfdquickcheck",
   "nfkccasefold nfkccf nfkcqc nfkcquickcheck nfkcscf nfkcsimplecasefold nfkdqc nfkdquickcheck",
   "noncharactercodepoint nt numerictype numericvalue nv oalpha ocomment odi ogrext oidc oids",
   "olower omath otheralphabetic otherdefaultignorablecodepoint othergraphemeextend",
   "otheridcontinue otheridstart otherlowercase othermath otheruppercase oupper patsyn",
   "patternsyntax patternwhitespace patws pcm prependedconcatenationmark qmark quotationmark",
   "radical regionalindicator ri sb sc scf script scriptextensions scx sd sentencebreak",
   "sentenceterminal sfc simplecasefolding simplelowercasemapping simpletitlecasemapping",
   "simpleuppercasemapping slc softdotted space stc sterm suc tc term terminalpunctuation",
   "titlecasemapping uc uideo unicode1name unicoderadicalstroke unifiedideograph upper uppercase",
   "uppercasemapping urs variationselector verticalorientation vo vs wb whitespace wordbreak",
   "wspace xidc xidcontinue xids xidstart xonfc xonfd xonfkc xonfkd"]

def isPropertyName (name : Text) : Bool :=
  propertyNames.any fun line => (CharSet.itemsOfTable line.toList).contains name

/-- Names of categories and scripts without any character. -/
def isVacantName (name : Text) : Bool :=
  ["cs", "surrogate", "zzzz", "unknown", "hrkt", "katakanaorhiragana"].any fun n =>
    n.toList == name

end MenuLine.Unicode
