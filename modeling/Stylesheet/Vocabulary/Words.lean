/-!
# Lists of words

The words of style sheets that belong to no property: media, descriptors and colors, each list in
the order in which completion presents it.
-/
namespace Stylesheet.Words

/-- The functions that choose documents in a document rule. -/
def documentTypes : List String := [
  "domain", "regexp", "url", "url-prefix"]

/-- The media types of a condition. -/
def mediaTypes : List String := [
  "all", "aural", "braille", "handheld", "print", "projection", "screen", "tty", "tv", "embossed"]

/-- The media features of a condition. -/
def mediaFeatures : List String := [
  "width", "min-width", "max-width", "height", "min-height", "max-height", "device-width",
  "min-device-width", "max-device-width", "device-height", "min-device-height",
  "max-device-height", "aspect-ratio", "min-aspect-ratio", "max-aspect-ratio",
  "device-aspect-ratio", "min-device-aspect-ratio", "max-device-aspect-ratio", "color",
  "min-color", "max-color", "color-index", "min-color-index", "max-color-index", "monochrome",
  "min-monochrome", "max-monochrome", "resolution", "min-resolution", "max-resolution", "scan",
  "grid", "orientation", "device-pixel-ratio", "min-device-pixel-ratio", "max-device-pixel-ratio",
  "pointer", "any-pointer", "hover", "any-hover"]

/-- The keyword values of media features. -/
def mediaValues : List String := [
  "landscape", "portrait", "none", "coarse", "fine", "on-demand", "hover", "interlace",
  "progressive"]

/-- Properties of one vendor, or of the past, which are shown apart from the others. -/
def legacyProperties : List String := [
  "scrollbar-arrow-color", "scrollbar-base-color", "scrollbar-dark-shadow-color",
  "scrollbar-face-color", "scrollbar-highlight-color", "scrollbar-shadow-color",
  "scrollbar-3d-light-color", "scrollbar-track-color", "shape-inside", "searchfield-cancel-button",
  "searchfield-decoration", "searchfield-results-button", "searchfield-results-decoration", "zoom"]

/-- The descriptors of a font. -/
def fontDescriptors : List String := [
  "font-family", "src", "unicode-range", "font-variant", "font-feature-settings", "font-stretch",
  "font-weight", "font-style"]

/-- The descriptors of a counter style. -/
def counterDescriptors : List String := [
  "additive-symbols", "fallback", "negative", "pad", "prefix", "range", "speak-as", "suffix",
  "symbols", "system"]

/-- The named colors. -/
def colors : List String := [
  "aliceblue", "antiquewhite", "aqua", "aquamarine", "azure", "beige", "bisque", "black",
  "blanchedalmond", "blue", "blueviolet", "brown", "burlywood", "cadetblue", "chartreuse",
  "chocolate", "coral", "cornflowerblue", "cornsilk", "crimson", "cyan", "darkblue", "darkcyan",
  "darkgoldenrod", "darkgray", "darkgreen", "darkkhaki", "darkmagenta", "darkolivegreen",
  "darkorange", "darkorchid", "darkred", "darksalmon", "darkseagreen", "darkslateblue",
  "darkslategray", "darkturquoise", "darkviolet", "deeppink", "deepskyblue", "dimgray",
  "dodgerblue", "firebrick", "floralwhite", "forestgreen", "fuchsia", "gainsboro", "ghostwhite",
  "gold", "goldenrod", "gray", "grey", "green", "greenyellow", "honeydew", "hotpink", "indianred",
  "indigo", "ivory", "khaki", "lavender", "lavenderblush", "lawngreen", "lemonchiffon",
  "lightblue", "lightcoral", "lightcyan", "lightgoldenrodyellow", "lightgray", "lightgreen",
  "lightpink", "lightsalmon", "lightseagreen", "lightskyblue", "lightslategray", "lightsteelblue",
  "lightyellow", "lime", "limegreen", "linen", "magenta", "maroon", "mediumaquamarine",
  "mediumblue", "mediumorchid", "mediumpurple", "mediumseagreen", "mediumslateblue",
  "mediumspringgreen", "mediumturquoise", "mediumvioletred", "midnightblue", "mintcream",
  "mistyrose", "moccasin", "navajowhite", "navy", "oldlace", "olive", "olivedrab", "orange",
  "orangered", "orchid", "palegoldenrod", "palegreen", "paleturquoise", "palevioletred",
  "papayawhip", "peachpuff", "peru", "pink", "plum", "powderblue", "purple", "rebeccapurple",
  "red", "rosybrown", "royalblue", "saddlebrown", "salmon", "sandybrown", "seagreen", "seashell",
  "sienna", "silver", "skyblue", "slateblue", "slategray", "snow", "springgreen", "steelblue",
  "tan", "teal", "thistle", "tomato", "turquoise", "violet", "wheat", "white", "whitesmoke",
  "yellow", "yellowgreen"]

end Stylesheet.Words
