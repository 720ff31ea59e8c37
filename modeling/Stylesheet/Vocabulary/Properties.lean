import Stylesheet.Vocabulary.ValueGrammar
import Stylesheet.Vocabulary.Words

/-!
# The properties

Every property with the grammar of its values, in the order of declaration, and the placeholders
that the grammars share.
-/
namespace Stylesheet.Words

/-- The shapes of the pointer. -/
def cursors : List String := [
  "auto", "default", "none", "context-menu", "help", "pointer", "progress", "wait", "cell",
  "crosshair", "text", "vertical-text", "alias", "copy", "move", "no-drop", "not-allowed",
  "e-resize", "n-resize", "ne-resize", "nw-resize", "s-resize", "se-resize", "sw-resize",
  "w-resize", "ew-resize", "ns-resize", "nesw-resize", "nwse-resize", "col-resize",
  "row-resize", "all-scroll", "zoom-in", "zoom-out", "grab", "grabbing"]

/-- The kinds of boxes. -/
def displays : List String := [
  "inline", "block", "list-item", "inline-block", "table", "inline-table", "table-row-group",
  "table-header-group", "table-footer-group", "table-row", "table-column-group",
  "table-column", "table-cell", "table-caption", "grid", "inline-grid", "run-in", "ruby",
  "ruby-base", "ruby-text", "ruby-base-container", "ruby-text-container", "contents", "none",
  "-moz-box", "-moz-inline-block", "-moz-inline-box", "-moz-inline-grid", "-moz-inline-stack",
  "-moz-inline-table", "-moz-grid", "-moz-grid-group", "-moz-grid-line", "-moz-groupbox",
  "-moz-deck", "-moz-popup", "-moz-stack", "-moz-marker", "-webkit-box", "-webkit-inline-box",
  "-ms-flexbox", "-ms-inline-flexbox", "flex", "-webkit-flex", "inline-flex",
  "-webkit-inline-flex"]

/-- The properties and their grammars. -/
def properties : List Property := [
  ⟨"align-items", ["flex-start", "flex-end", "center", "baseline", "stretch"]⟩,
  ⟨"align-content",
    ["flex-start", "flex-end", "center", "space-between", "space-around", "stretch"]⟩,
  ⟨"align-self", ["auto", "flex-start", "flex-end", "center", "baseline", "stretch"]⟩,
  ⟨"alignment-adjust",
    ["auto", "baseline", "before-edge", "text-before-edge", "middle", "central", "after-edge",
      "text-after-edge", "ideographic", "alphabetic", "hanging", "mathematical"]⟩,
  ⟨"alignment-baseline",
    ["baseline", "use-script", "before-edge", "text-before-edge", "after-edge", "text-after-edge",
      "central", "middle", "ideographic", "alphabetic", "hanging", "mathematical"]⟩,
  ⟨"animation", []⟩,
  ⟨"animation-delay", []⟩,
  ⟨"animation-direction", ["normal", "alternate"]⟩,
  ⟨"animation-duration", []⟩,
  ⟨"animation-fill-mode", ["none", "forwards", "backwards", "both"]⟩,
  ⟨"animation-iteration-count", ["infinite"]⟩,
  ⟨"animation-name", ["none"]⟩,
  ⟨"animation-play-state", ["running", "paused"]⟩,
  ⟨"animation-timing-function", []⟩,
  ⟨"appearance",
    ["icon", "window", "desktop", "workspace", "document", "tooltip", "dialog", "button",
      "push-button", "hyperlink", "radio-button", "checkbox", "menu-item", "tab", "menu",
      "menubar", "pull-down-menu", "pop-up-menu", "list-menu", "radio-group", "checkbox-group",
      "outline-tree", "range", "field", "combo-box", "signature", "password", "normal", "none"]⟩,
  ⟨"azimuth", []⟩,
  ⟨"backface-visibility", ["visible", "hidden"]⟩,
  ⟨"background", []⟩,
  ⟨"background-attachment", ["scroll", "fixed", "local"]⟩,
  ⟨"background-clip", [.placeholder "<box>"]⟩,
  ⟨"background-color", [.placeholder "<color>"]⟩,
  ⟨"background-image", ["none"]⟩,
  ⟨"background-origin", [.placeholder "<box>"]⟩,
  ⟨"background-position", [.placeholder "<bg-position>"]⟩,
  ⟨"background-repeat", ["repeat", "space", "round", "no-repeat", "repeat-x", "repeat-y"]⟩,
  ⟨"background-size", ["auto", "cover", "contain"]⟩,
  ⟨"baseline-shift", ["baseline", "sub", "super"]⟩,
  ⟨"behavior", []⟩,
  ⟨"binding", []⟩,
  ⟨"bleed", []⟩,
  ⟨"bookmark-label", []⟩,
  ⟨"bookmark-level", ["none"]⟩,
  ⟨"bookmark-state", ["open", "closed"]⟩,
  ⟨"bookmark-target", ["none"]⟩,
  ⟨"border", []⟩,
  ⟨"border-bottom", []⟩,
  ⟨"border-bottom-color", [.placeholder "<color>"]⟩,
  ⟨"border-bottom-left-radius", []⟩,
  ⟨"border-bottom-right-radius", []⟩,
  ⟨"border-bottom-style", [.placeholder "<border-style>"]⟩,
  ⟨"border-bottom-width", [.placeholder "<border-width>"]⟩,
  ⟨"border-collapse", ["collapse", "separate"]⟩,
  ⟨"border-color", [.placeholder "<color>"]⟩,
  ⟨"border-image", []⟩,
  ⟨"border-image-outset", []⟩,
  ⟨"border-image-repeat", ["stretch", "repeat", "round"]⟩,
  ⟨"border-image-slice", []⟩,
  ⟨"border-image-source", ["none"]⟩,
  ⟨"border-image-width", ["auto"]⟩,
  ⟨"border-left", []⟩,
  ⟨"border-left-color", [.placeholder "<color>"]⟩,
  ⟨"border-left-style", [.placeholder "<border-style>"]⟩,
  ⟨"border-left-width", [.placeholder "<border-width>"]⟩,
  ⟨"border-radius", []⟩,
  ⟨"border-right", []⟩,
  ⟨"border-right-color", [.placeholder "<color>"]⟩,
  ⟨"border-right-style", [.placeholder "<border-style>"]⟩,
  ⟨"border-right-width", [.placeholder "<border-width>"]⟩,
  ⟨"border-spacing", []⟩,
  ⟨"border-style", [.placeholder "<border-style>"]⟩,
  ⟨"border-top", []⟩,
  ⟨"border-top-color", [.placeholder "<color>"]⟩,
  ⟨"border-top-left-radius", []⟩,
  ⟨"border-top-right-radius", []⟩,
  ⟨"border-top-style", [.placeholder "<border-style>"]⟩,
  ⟨"border-top-width", [.placeholder "<border-width>"]⟩,
  ⟨"border-width", [.placeholder "<border-width>"]⟩,
  ⟨"bottom", [.placeholder "<margin-width>"]⟩,
  ⟨"box-decoration-break", ["slice", "clone"]⟩,
  ⟨"box-shadow", []⟩,
  ⟨"box-sizing", ["content-box", "border-box"]⟩,
  ⟨"break-after",
    ["auto", "always", "avoid", "left", "right", "page", "column", "avoid-page", "avoid-column"]⟩,
  ⟨"break-before",
    ["auto", "always", "avoid", "left", "right", "page", "column", "avoid-page", "avoid-column"]⟩,
  ⟨"break-inside", ["auto", "avoid", "avoid-page", "avoid-column"]⟩,
  ⟨"caption-side", ["top", "bottom"]⟩,
  ⟨"clear", ["none", "right", "left", "both"]⟩,
  ⟨"clip", []⟩,
  ⟨"clip-path", []⟩,
  ⟨"clip-rule", []⟩,
  ⟨"color", [.placeholder "<color>"]⟩,
  ⟨"color-interpolation", []⟩,
  ⟨"color-interpolation-filters", []⟩,
  ⟨"color-profile", []⟩,
  ⟨"color-rendering", []⟩,
  ⟨"column-count", ["auto"]⟩,
  ⟨"column-fill", ["auto", "balance"]⟩,
  ⟨"column-gap", ["normal"]⟩,
  ⟨"column-rule", []⟩,
  ⟨"column-rule-color", [.placeholder "<color>"]⟩,
  ⟨"column-rule-style", [.placeholder "<border-style>"]⟩,
  ⟨"column-rule-width", [.placeholder "<border-width>"]⟩,
  ⟨"column-span", ["none", "all"]⟩,
  ⟨"column-width", ["auto"]⟩,
  ⟨"columns", []⟩,
  ⟨"content", []⟩,
  ⟨"counter-increment", []⟩,
  ⟨"counter-reset", []⟩,
  ⟨"crop", ["auto"]⟩,
  ⟨"cue", ["cue-after", "cue-before"]⟩,
  ⟨"cue-after", []⟩,
  ⟨"cue-before", []⟩,
  ⟨"cursor", cursors.map .keyword⟩,
  ⟨"direction", ["ltr", "rtl"]⟩,
  ⟨"display", displays.map .keyword⟩,
  ⟨"dominant-baseline", []⟩,
  ⟨"drop-initial-after-adjust",
    ["central", "middle", "after-edge", "text-after-edge", "ideographic", "alphabetic",
      "mathematical"]⟩,
  ⟨"drop-initial-after-align",
    ["baseline", "use-script", "before-edge", "text-before-edge", "after-edge", "text-after-edge",
      "central", "middle", "ideographic", "alphabetic", "hanging", "mathematical"]⟩,
  ⟨"drop-initial-before-adjust",
    ["before-edge", "text-before-edge", "central", "middle", "hanging", "mathematical"]⟩,
  ⟨"drop-initial-before-align",
    ["caps-height", "baseline", "use-script", "before-edge", "text-before-edge", "after-edge",
      "text-after-edge", "central", "middle", "ideographic", "alphabetic", "hanging",
      "mathematical"]⟩,
  ⟨"drop-initial-size", ["auto", "line"]⟩,
  ⟨"drop-initial-value", []⟩,
  ⟨"elevation", ["below", "level", "above", "higher", "lower"]⟩,
  ⟨"empty-cells", ["show", "hide"]⟩,
  ⟨"enable-background", []⟩,
  ⟨"fill", []⟩,
  ⟨"fill-opacity", []⟩,
  ⟨"fill-rule", []⟩,
  ⟨"filter", []⟩,
  ⟨"fit", ["fill", "hidden", "meet", "slice"]⟩,
  ⟨"fit-position", []⟩,
  ⟨"flex", []⟩,
  ⟨"flex-basis", []⟩,
  ⟨"flex-direction", ["row", "row-reverse", "column", "column-reverse"]⟩,
  ⟨"flex-flow", []⟩,
  ⟨"flex-grow", []⟩,
  ⟨"flex-shrink", []⟩,
  ⟨"flex-wrap", ["nowrap", "wrap", "wrap-reverse"]⟩,
  ⟨"float", ["left", "right", "none"]⟩,
  ⟨"float-offset", []⟩,
  ⟨"flood-color", []⟩,
  ⟨"flood-opacity", []⟩,
  ⟨"font", []⟩,
  ⟨"font-family", []⟩,
  ⟨"font-feature-settings", ["normal"]⟩,
  ⟨"font-kerning", ["auto", "normal", "none", "unset"]⟩,
  ⟨"font-size", []⟩,
  ⟨"font-size-adjust", ["none"]⟩,
  ⟨"font-stretch",
    ["normal", "ultra-condensed", "extra-condensed", "condensed", "semi-condensed",
      "semi-expanded", "expanded", "extra-expanded", "ultra-expanded"]⟩,
  ⟨"font-style", ["normal", "italic", "oblique"]⟩,
  ⟨"font-variant", ["normal", "small-caps"]⟩,
  ⟨"font-variant-caps",
    ["normal", "small-caps", "all-small-caps", "petite-caps", "all-petite-caps", "unicase",
      "titling-caps"]⟩,
  ⟨"font-variant-position", ["normal", "sub", "super", "unset"]⟩,
  ⟨"font-weight",
    ["normal", "bold", "bolder", "lighter", "100", "200", "300", "400", "500", "600", "700", "800",
      "900"]⟩,
  ⟨"glyph-orientation-horizontal", []⟩,
  ⟨"glyph-orientation-vertical", []⟩,
  ⟨"grid", []⟩,
  ⟨"grid-area", []⟩,
  ⟨"grid-auto-columns", []⟩,
  ⟨"grid-auto-flow", []⟩,
  ⟨"grid-auto-position", []⟩,
  ⟨"grid-auto-rows", []⟩,
  ⟨"grid-cell-stacking", ["columns", "rows", "layer"]⟩,
  ⟨"grid-column", []⟩,
  ⟨"grid-columns", []⟩,
  ⟨"grid-column-align", ["start", "end", "center", "stretch"]⟩,
  ⟨"grid-column-sizing", []⟩,
  ⟨"grid-column-start", []⟩,
  ⟨"grid-column-end", []⟩,
  ⟨"grid-column-span", []⟩,
  ⟨"grid-flow", ["none", "rows", "columns"]⟩,
  ⟨"grid-layer", []⟩,
  ⟨"grid-row", []⟩,
  ⟨"grid-rows", []⟩,
  ⟨"grid-row-align", ["start", "end", "center", "stretch"]⟩,
  ⟨"grid-row-start", []⟩,
  ⟨"grid-row-end", []⟩,
  ⟨"grid-row-span", []⟩,
  ⟨"grid-row-sizing", []⟩,
  ⟨"grid-template", []⟩,
  ⟨"grid-template-areas", []⟩,
  ⟨"grid-template-columns", []⟩,
  ⟨"grid-template-rows", []⟩,
  ⟨"hanging-punctuation", []⟩,
  ⟨"height", []⟩,
  ⟨"hyphenate-after", ["auto"]⟩,
  ⟨"hyphenate-before", ["auto"]⟩,
  ⟨"hyphenate-character", ["auto"]⟩,
  ⟨"hyphenate-lines", ["no-limit"]⟩,
  ⟨"hyphenate-resource", []⟩,
  ⟨"hyphens", ["none", "manual", "auto"]⟩,
  ⟨"icon", []⟩,
  ⟨"image-orientation", ["angle", "auto"]⟩,
  ⟨"image-rendering", []⟩,
  ⟨"image-resolution", []⟩,
  ⟨"ime-mode", ["auto", "normal", "active", "inactive", "disabled"]⟩,
  ⟨"inline-box-align", ["last"]⟩,
  ⟨"justify-content", ["flex-start", "flex-end", "center", "space-between", "space-around"]⟩,
  ⟨"left", [.placeholder "<margin-width>"]⟩,
  ⟨"letter-spacing", ["normal"]⟩,
  ⟨"lighting-color", []⟩,
  ⟨"line-height", ["normal"]⟩,
  ⟨"line-break", ["auto", "loose", "normal", "strict"]⟩,
  ⟨"line-stacking", []⟩,
  ⟨"line-stacking-ruby", ["exclude-ruby", "include-ruby"]⟩,
  ⟨"line-stacking-shift", ["consider-shifts", "disregard-shifts"]⟩,
  ⟨"line-stacking-strategy",
    ["inline-line-height", "block-line-height", "max-height", "grid-height"]⟩,
  ⟨"list-style", []⟩,
  ⟨"list-style-image", ["none"]⟩,
  ⟨"list-style-position", ["inside", "outside"]⟩,
  ⟨"list-style-type",
    ["disc", "circle", "square", "decimal", "decimal-leading-zero", "lower-roman", "upper-roman",
      "lower-greek", "lower-latin", "upper-latin", "armenian", "georgian", "lower-alpha",
      "upper-alpha", "none"]⟩,
  ⟨"margin", [.placeholder "<margin-width>"]⟩,
  ⟨"margin-bottom", [.placeholder "<margin-width>"]⟩,
  ⟨"margin-left", [.placeholder "<margin-width>"]⟩,
  ⟨"margin-right", [.placeholder "<margin-width>"]⟩,
  ⟨"margin-top", [.placeholder "<margin-width>"]⟩,
  ⟨"mark", []⟩,
  ⟨"mark-after", []⟩,
  ⟨"mark-before", []⟩,
  ⟨"marker", []⟩,
  ⟨"marker-end", []⟩,
  ⟨"marker-mid", []⟩,
  ⟨"marker-start", []⟩,
  ⟨"marks", []⟩,
  ⟨"marquee-direction", []⟩,
  ⟨"marquee-play-count", []⟩,
  ⟨"marquee-speed", []⟩,
  ⟨"marquee-style", []⟩,
  ⟨"mask", []⟩,
  ⟨"max-height", []⟩,
  ⟨"max-width", []⟩,
  ⟨"min-height", []⟩,
  ⟨"min-width", []⟩,
  ⟨"move-to", []⟩,
  ⟨"nav-down", []⟩,
  ⟨"nav-index", []⟩,
  ⟨"nav-left", []⟩,
  ⟨"nav-right", []⟩,
  ⟨"nav-up", []⟩,
  ⟨"object-fit", ["fill", "contain", "cover", "none", "scale-down"]⟩,
  ⟨"object-position", [.placeholder "<bg-position>"]⟩,
  ⟨"opacity", []⟩,
  ⟨"order", []⟩,
  ⟨"orphans", []⟩,
  ⟨"outline", []⟩,
  ⟨"outline-color", []⟩,
  ⟨"outline-offset", []⟩,
  ⟨"outline-style", [.placeholder "<border-style>"]⟩,
  ⟨"outline-width", [.placeholder "<border-width>"]⟩,
  ⟨"overflow", [.placeholder "<overflow>"]⟩,
  ⟨"overflow-style", []⟩,
  ⟨"overflow-wrap", ["normal", "break-word"]⟩,
  ⟨"overflow-x", [.placeholder "<overflow>"]⟩,
  ⟨"overflow-y", [.placeholder "<overflow>"]⟩,
  ⟨"padding", []⟩,
  ⟨"padding-bottom", []⟩,
  ⟨"padding-left", []⟩,
  ⟨"padding-right", []⟩,
  ⟨"padding-top", []⟩,
  ⟨"page", []⟩,
  ⟨"page-break-after", ["auto", "always", "avoid", "left", "right"]⟩,
  ⟨"page-break-before", ["auto", "always", "avoid", "left", "right"]⟩,
  ⟨"page-break-inside", ["auto", "avoid"]⟩,
  ⟨"page-policy", []⟩,
  ⟨"pause", []⟩,
  ⟨"pause-after", []⟩,
  ⟨"pause-before", []⟩,
  ⟨"perspective", []⟩,
  ⟨"perspective-origin", []⟩,
  ⟨"phonemes", []⟩,
  ⟨"pitch", []⟩,
  ⟨"pitch-range", []⟩,
  ⟨"play-during", []⟩,
  ⟨"pointer-events",
    ["auto", "none", "visiblePainted", "visibleFill", "visibleStroke", "visible", "painted",
      "fill", "stroke", "all"]⟩,
  ⟨"position", ["static", "relative", "absolute", "fixed"]⟩,
  ⟨"presentation-level", []⟩,
  ⟨"punctuation-trim", []⟩,
  ⟨"quotes", []⟩,
  ⟨"rendering-intent", []⟩,
  ⟨"resize", []⟩,
  ⟨"rest", []⟩,
  ⟨"rest-after", []⟩,
  ⟨"rest-before", []⟩,
  ⟨"richness", []⟩,
  ⟨"right", [.placeholder "<margin-width>"]⟩,
  ⟨"rotation", []⟩,
  ⟨"rotation-point", []⟩,
  ⟨"ruby-align", []⟩,
  ⟨"ruby-overhang", []⟩,
  ⟨"ruby-position", []⟩,
  ⟨"ruby-span", []⟩,
  ⟨"shape-rendering", []⟩,
  ⟨"stop-color", []⟩,
  ⟨"stop-opacity", []⟩,
  ⟨"stroke", []⟩,
  ⟨"stroke-dasharray", []⟩,
  ⟨"stroke-dashoffset", []⟩,
  ⟨"stroke-linecap", []⟩,
  ⟨"stroke-linejoin", []⟩,
  ⟨"stroke-miterlimit", []⟩,
  ⟨"stroke-opacity", []⟩,
  ⟨"stroke-width", []⟩,
  ⟨"size", []⟩,
  ⟨"speak", ["normal", "none", "spell-out"]⟩,
  ⟨"speak-header", ["once", "always"]⟩,
  ⟨"speak-numeral", ["digits", "continuous"]⟩,
  ⟨"speak-punctuation", ["code", "none"]⟩,
  ⟨"speech-rate", []⟩,
  ⟨"src", []⟩,
  ⟨"stress", []⟩,
  ⟨"string-set", []⟩,
  ⟨"table-layout", ["auto", "fixed"]⟩,
  ⟨"tab-size", []⟩,
  ⟨"target", []⟩,
  ⟨"target-name", []⟩,
  ⟨"target-new", []⟩,
  ⟨"target-position", []⟩,
  ⟨"text-align", ["left", "right", "center", "justify", "match-parent", "start", "end"]⟩,
  ⟨"text-align-last", []⟩,
  ⟨"text-anchor", []⟩,
  ⟨"text-decoration", ["none", "underline", "overline", "line-through"]⟩,
  ⟨"text-emphasis", []⟩,
  ⟨"text-height", []⟩,
  ⟨"text-indent", []⟩,
  ⟨"text-justify",
    ["auto", "none", "inter-word", "inter-ideograph", "inter-cluster", "distribute", "kashida"]⟩,
  ⟨"text-outline", []⟩,
  ⟨"text-overflow", ["clip", "ellipsis"]⟩,
  ⟨"text-rendering", ["auto", "optimizeSpeed", "optimizeLegibility", "geometricPrecision"]⟩,
  ⟨"text-shadow", []⟩,
  ⟨"text-transform", ["capitalize", "uppercase", "lowercase", "none"]⟩,
  ⟨"text-wrap", ["normal", "none", "avoid"]⟩,
  ⟨"top", [.placeholder "<margin-width>"]⟩,
  ⟨"touch-action", ["auto", "none", "pan-x", "pan-y"]⟩,
  ⟨"transform", []⟩,
  ⟨"transform-origin", []⟩,
  ⟨"transform-style", []⟩,
  ⟨"transition", []⟩,
  ⟨"transition-delay", []⟩,
  ⟨"transition-duration", []⟩,
  ⟨"transition-property", []⟩,
  ⟨"transition-timing-function", []⟩,
  ⟨"unicode-bidi",
    ["normal", "embed", "isolate", "bidi-override", "isolate-override", "plaintext"]⟩,
  ⟨"user-modify", ["read-only", "read-write", "write-only"]⟩,
  ⟨"user-select", ["none", "text", "toggle", "element", "elements", "all"]⟩,
  ⟨"vertical-align",
    ["auto", "use-script", "baseline", "sub", "super", "top", "text-top", "central", "middle",
      "bottom", "text-bottom"]⟩,
  ⟨"visibility", ["visible", "hidden", "collapse"]⟩,
  ⟨"voice-balance", []⟩,
  ⟨"voice-duration", []⟩,
  ⟨"voice-family", []⟩,
  ⟨"voice-pitch", []⟩,
  ⟨"voice-pitch-range", []⟩,
  ⟨"voice-rate", []⟩,
  ⟨"voice-stress", []⟩,
  ⟨"voice-volume", []⟩,
  ⟨"volume", []⟩,
  ⟨"white-space",
    ["normal", "pre", "nowrap", "pre-wrap", "pre-line", "-pre-wrap", "-o-pre-wrap",
      "-moz-pre-wrap", "-hp-pre-wrap"]⟩,
  ⟨"white-space-collapse", []⟩,
  ⟨"widows", []⟩,
  ⟨"width", []⟩,
  ⟨"will-change", []⟩,
  ⟨"word-break", ["normal", "keep-all", "break-all"]⟩,
  ⟨"word-spacing", ["normal"]⟩,
  ⟨"word-wrap", ["normal", "break-word"]⟩,
  ⟨"writing-mode",
    ["horizontal-tb", "vertical-rl", "vertical-lr", "lr-tb", "rl-tb", "tb-rl", "bt-rl", "tb-lr",
      "bt-lr", "lr-bt", "rl-bt", "lr", "rl", "tb"]⟩,
  ⟨"z-index", ["auto"]⟩,
  ⟨"anchor-point", []⟩,
  ⟨"flow-from", []⟩,
  ⟨"flow-into", []⟩,
  ⟨"font-language-override", []⟩,
  ⟨"font-synthesis", []⟩,
  ⟨"font-variant-alternates", []⟩,
  ⟨"font-variant-east-asian", []⟩,
  ⟨"font-variant-ligatures", []⟩,
  ⟨"font-variant-numeric", []⟩,
  ⟨"marker-offset", []⟩,
  ⟨"marquee-loop", []⟩,
  ⟨"region-break-after", []⟩,
  ⟨"region-break-before", []⟩,
  ⟨"region-break-inside", []⟩,
  ⟨"region-fragment", []⟩,
  ⟨"shape-image-threshold", []⟩,
  ⟨"shape-inside", []⟩,
  ⟨"shape-margin", []⟩,
  ⟨"shape-outside", []⟩,
  ⟨"speak-as", []⟩,
  ⟨"text-decoration-color", []⟩,
  ⟨"text-decoration-line", []⟩,
  ⟨"text-decoration-skip", []⟩,
  ⟨"text-decoration-style", []⟩,
  ⟨"text-emphasis-color", []⟩,
  ⟨"text-emphasis-position", []⟩,
  ⟨"text-emphasis-style", []⟩,
  ⟨"text-size-adjust", []⟩,
  ⟨"text-space-collapse", []⟩,
  ⟨"text-underline-position", []⟩,
  ⟨"voice-range", []⟩]

/-- The placeholders and their expansions. -/
def placeholders : List Placeholder := [
  ⟨"<box>", ["padding-box", "border-box", "content-box"]⟩,
  ⟨"<color>", colors⟩,
  ⟨"<border-width>", ["thin", "medium", "thick"]⟩,
  ⟨"<border-style>",
    ["none", "hidden", "dotted", "dashed", "solid", "double", "groove", "ridge", "inset",
      "outset"]⟩,
  ⟨"<margin-width>", ["auto"]⟩,
  ⟨"<bg-position>", ["left", "right", "top", "bottom", "center"]⟩,
  ⟨"<overflow>", ["visible", "hidden", "scroll", "auto"]⟩]

end Stylesheet.Words
