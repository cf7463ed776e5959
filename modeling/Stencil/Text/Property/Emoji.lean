import Stencil.Text.Property.Stride

set_option autoImplicit false

/-! Emoji, and the characters that can be shown as one. -/

namespace Stencil.Text.Property

/-- Characters that are shown as emoji unless a selector asks for something else. -/
def emoji : List Stride := [
  ⟨8986, 8987, 1⟩, ⟨9193, 9196, 1⟩, ⟨9200, 9200, 1⟩, ⟨9203, 9203, 1⟩, ⟨9725, 9726, 1⟩,
  ⟨9748, 9749, 1⟩, ⟨9800, 9811, 1⟩, ⟨9855, 9855, 1⟩, ⟨9875, 9875, 1⟩, ⟨9889, 9889, 1⟩,
  ⟨9898, 9899, 1⟩, ⟨9917, 9918, 1⟩, ⟨9924, 9925, 1⟩, ⟨9934, 9934, 1⟩, ⟨9940, 9940, 1⟩,
  ⟨9962, 9962, 1⟩, ⟨9970, 9971, 1⟩, ⟨9973, 9973, 1⟩, ⟨9978, 9978, 1⟩, ⟨9981, 9981, 1⟩,
  ⟨9989, 9989, 1⟩, ⟨9994, 9995, 1⟩, ⟨10024, 10024, 1⟩, ⟨10060, 10062, 2⟩, ⟨10067, 10069, 1⟩,
  ⟨10071, 10071, 1⟩, ⟨10133, 10135, 1⟩, ⟨10160, 10160, 1⟩, ⟨10175, 10175, 1⟩, ⟨11035, 11036, 1⟩,
  ⟨11088, 11088, 1⟩, ⟨11093, 11093, 1⟩, ⟨126980, 126980, 1⟩, ⟨127183, 127183, 1⟩,
  ⟨127374, 127374, 1⟩, ⟨127377, 127386, 1⟩, ⟨127489, 127489, 1⟩, ⟨127514, 127514, 1⟩,
  ⟨127535, 127535, 1⟩, ⟨127538, 127542, 1⟩, ⟨127544, 127546, 1⟩, ⟨127568, 127569, 1⟩,
  ⟨127744, 127776, 1⟩, ⟨127789, 127797, 1⟩, ⟨127799, 127868, 1⟩, ⟨127870, 127891, 1⟩,
  ⟨127904, 127946, 1⟩, ⟨127951, 127955, 1⟩, ⟨127968, 127984, 1⟩, ⟨127988, 127988, 1⟩,
  ⟨127992, 127994, 1⟩, ⟨128000, 128062, 1⟩, ⟨128064, 128064, 1⟩, ⟨128066, 128252, 1⟩,
  ⟨128255, 128317, 1⟩, ⟨128331, 128334, 1⟩, ⟨128336, 128359, 1⟩, ⟨128378, 128378, 1⟩,
  ⟨128405, 128406, 1⟩, ⟨128420, 128420, 1⟩, ⟨128507, 128591, 1⟩, ⟨128640, 128709, 1⟩,
  ⟨128716, 128716, 1⟩, ⟨128720, 128722, 1⟩, ⟨128725, 128728, 1⟩, ⟨128732, 128735, 1⟩,
  ⟨128747, 128748, 1⟩, ⟨128756, 128764, 1⟩, ⟨128992, 129003, 1⟩, ⟨129008, 129008, 1⟩,
  ⟨129292, 129338, 1⟩, ⟨129340, 129349, 1⟩, ⟨129351, 129535, 1⟩, ⟨129648, 129660, 1⟩,
  ⟨129664, 129674, 1⟩, ⟨129678, 129734, 1⟩, ⟨129736, 129736, 1⟩, ⟨129741, 129756, 1⟩,
  ⟨129759, 129770, 1⟩, ⟨129775, 129784, 1⟩]

/-- Characters that are shown as emoji only if a selector asks for it. -/
def emojiOnRequest : List Stride := [
  ⟨35, 35, 1⟩, ⟨42, 42, 1⟩, ⟨48, 57, 1⟩, ⟨169, 169, 1⟩, ⟨174, 174, 1⟩, ⟨8252, 8252, 1⟩,
  ⟨8265, 8265, 1⟩, ⟨8482, 8482, 1⟩, ⟨8505, 8505, 1⟩, ⟨8596, 8601, 1⟩, ⟨8617, 8618, 1⟩,
  ⟨9000, 9000, 1⟩, ⟨9167, 9167, 1⟩, ⟨9197, 9199, 1⟩, ⟨9201, 9202, 1⟩, ⟨9208, 9210, 1⟩,
  ⟨9410, 9410, 1⟩, ⟨9642, 9643, 1⟩, ⟨9654, 9654, 1⟩, ⟨9664, 9664, 1⟩, ⟨9723, 9724, 1⟩,
  ⟨9728, 9732, 1⟩, ⟨9742, 9742, 1⟩, ⟨9745, 9745, 1⟩, ⟨9752, 9752, 1⟩, ⟨9757, 9757, 1⟩,
  ⟨9760, 9760, 1⟩, ⟨9762, 9763, 1⟩, ⟨9766, 9766, 1⟩, ⟨9770, 9770, 1⟩, ⟨9774, 9775, 1⟩,
  ⟨9784, 9786, 1⟩, ⟨9792, 9794, 2⟩, ⟨9823, 9824, 1⟩, ⟨9827, 9827, 1⟩, ⟨9829, 9830, 1⟩,
  ⟨9832, 9832, 1⟩, ⟨9851, 9851, 1⟩, ⟨9854, 9854, 1⟩, ⟨9874, 9874, 1⟩, ⟨9876, 9879, 1⟩,
  ⟨9881, 9881, 1⟩, ⟨9883, 9884, 1⟩, ⟨9888, 9888, 1⟩, ⟨9895, 9895, 1⟩, ⟨9904, 9905, 1⟩,
  ⟨9928, 9928, 1⟩, ⟨9935, 9939, 2⟩, ⟨9961, 9961, 1⟩, ⟨9968, 9969, 1⟩, ⟨9972, 9972, 1⟩,
  ⟨9975, 9977, 1⟩, ⟨9986, 9986, 1⟩, ⟨9992, 9993, 1⟩, ⟨9996, 9997, 1⟩, ⟨9999, 9999, 1⟩,
  ⟨10002, 10006, 2⟩, ⟨10013, 10013, 1⟩, ⟨10017, 10017, 1⟩, ⟨10035, 10036, 1⟩, ⟨10052, 10052, 1⟩,
  ⟨10055, 10055, 1⟩, ⟨10083, 10084, 1⟩, ⟨10145, 10145, 1⟩, ⟨10548, 10549, 1⟩, ⟨11013, 11015, 1⟩,
  ⟨12336, 12336, 1⟩, ⟨12349, 12349, 1⟩, ⟨12951, 12953, 2⟩, ⟨127344, 127345, 1⟩,
  ⟨127358, 127359, 1⟩, ⟨127490, 127490, 1⟩, ⟨127543, 127543, 1⟩, ⟨127777, 127777, 1⟩,
  ⟨127780, 127788, 1⟩, ⟨127798, 127798, 1⟩, ⟨127869, 127869, 1⟩, ⟨127894, 127895, 1⟩,
  ⟨127897, 127899, 1⟩, ⟨127902, 127903, 1⟩, ⟨127947, 127950, 1⟩, ⟨127956, 127967, 1⟩,
  ⟨127987, 127991, 2⟩, ⟨128063, 128065, 2⟩, ⟨128253, 128253, 1⟩, ⟨128329, 128330, 1⟩,
  ⟨128367, 128368, 1⟩, ⟨128371, 128377, 1⟩, ⟨128391, 128391, 1⟩, ⟨128394, 128397, 1⟩,
  ⟨128400, 128400, 1⟩, ⟨128421, 128421, 1⟩, ⟨128424, 128424, 1⟩, ⟨128433, 128434, 1⟩,
  ⟨128444, 128444, 1⟩, ⟨128450, 128452, 1⟩, ⟨128465, 128467, 1⟩, ⟨128476, 128478, 1⟩,
  ⟨128481, 128483, 2⟩, ⟨128488, 128488, 1⟩, ⟨128495, 128495, 1⟩, ⟨128499, 128499, 1⟩,
  ⟨128506, 128506, 1⟩, ⟨128715, 128715, 1⟩, ⟨128717, 128719, 1⟩, ⟨128736, 128741, 1⟩,
  ⟨128745, 128745, 1⟩, ⟨128752, 128752, 1⟩, ⟨128755, 128755, 1⟩]

/-- Emoji that a selector turns into plain characters. -/
def textOnRequest : List Stride := [
  ⟨8986, 8987, 1⟩, ⟨9193, 9196, 1⟩, ⟨9200, 9200, 1⟩, ⟨9203, 9203, 1⟩, ⟨9725, 9726, 1⟩,
  ⟨9748, 9749, 1⟩, ⟨9800, 9811, 1⟩, ⟨9855, 9855, 1⟩, ⟨9875, 9875, 1⟩, ⟨9889, 9889, 1⟩,
  ⟨9898, 9899, 1⟩, ⟨9917, 9918, 1⟩, ⟨9924, 9925, 1⟩, ⟨9934, 9934, 1⟩, ⟨9940, 9940, 1⟩,
  ⟨9962, 9962, 1⟩, ⟨9970, 9971, 1⟩, ⟨9973, 9973, 1⟩, ⟨9978, 9978, 1⟩, ⟨9981, 9981, 1⟩,
  ⟨9989, 9989, 1⟩, ⟨9994, 9995, 1⟩, ⟨10024, 10024, 1⟩, ⟨10060, 10062, 2⟩, ⟨10067, 10069, 1⟩,
  ⟨10071, 10071, 1⟩, ⟨10133, 10135, 1⟩, ⟨10160, 10160, 1⟩, ⟨10175, 10175, 1⟩, ⟨11035, 11036, 1⟩,
  ⟨11088, 11088, 1⟩, ⟨11093, 11093, 1⟩, ⟨126980, 126980, 1⟩, ⟨127514, 127514, 1⟩,
  ⟨127535, 127535, 1⟩, ⟨127757, 127759, 1⟩, ⟨127765, 127765, 1⟩, ⟨127772, 127772, 1⟩,
  ⟨127864, 127864, 1⟩, ⟨127891, 127891, 1⟩, ⟨127911, 127911, 1⟩, ⟨127916, 127918, 1⟩,
  ⟨127938, 127942, 2⟩, ⟨127946, 127946, 1⟩, ⟨127968, 127968, 1⟩, ⟨127981, 127981, 1⟩,
  ⟨128008, 128008, 1⟩, ⟨128021, 128021, 1⟩, ⟨128031, 128031, 1⟩, ⟨128038, 128038, 1⟩,
  ⟨128066, 128066, 1⟩, ⟨128070, 128073, 1⟩, ⟨128077, 128078, 1⟩, ⟨128083, 128083, 1⟩,
  ⟨128106, 128106, 1⟩, ⟨128125, 128125, 1⟩, ⟨128163, 128163, 1⟩, ⟨128176, 128176, 1⟩,
  ⟨128179, 128179, 1⟩, ⟨128187, 128187, 1⟩, ⟨128191, 128191, 1⟩, ⟨128203, 128203, 1⟩,
  ⟨128218, 128218, 1⟩, ⟨128223, 128223, 1⟩, ⟨128228, 128230, 1⟩, ⟨128234, 128237, 1⟩,
  ⟨128247, 128247, 1⟩, ⟨128249, 128251, 1⟩, ⟨128264, 128264, 1⟩, ⟨128269, 128269, 1⟩,
  ⟨128274, 128275, 1⟩, ⟨128336, 128359, 1⟩, ⟨128528, 128528, 1⟩, ⟨128647, 128647, 1⟩,
  ⟨128653, 128653, 1⟩, ⟨128657, 128657, 1⟩, ⟨128660, 128660, 1⟩, ⟨128664, 128664, 1⟩,
  ⟨128685, 128685, 1⟩, ⟨128690, 128690, 1⟩, ⟨128697, 128698, 1⟩, ⟨128700, 128700, 1⟩]

/-- Emoji whose skin can be given a tone. -/
def toneable : List Stride := [
  ⟨9757, 9757, 1⟩, ⟨9977, 9977, 1⟩, ⟨9994, 9997, 1⟩, ⟨127877, 127877, 1⟩, ⟨127938, 127940, 1⟩,
  ⟨127943, 127943, 1⟩, ⟨127946, 127948, 1⟩, ⟨128066, 128067, 1⟩, ⟨128070, 128080, 1⟩,
  ⟨128102, 128120, 1⟩, ⟨128124, 128124, 1⟩, ⟨128129, 128131, 1⟩, ⟨128133, 128135, 1⟩,
  ⟨128143, 128145, 2⟩, ⟨128170, 128170, 1⟩, ⟨128372, 128373, 1⟩, ⟨128378, 128378, 1⟩,
  ⟨128400, 128400, 1⟩, ⟨128405, 128406, 1⟩, ⟨128581, 128583, 1⟩, ⟨128587, 128591, 1⟩,
  ⟨128675, 128675, 1⟩, ⟨128692, 128694, 1⟩, ⟨128704, 128704, 1⟩, ⟨128716, 128716, 1⟩,
  ⟨129292, 129292, 1⟩, ⟨129295, 129295, 1⟩, ⟨129304, 129311, 1⟩, ⟨129318, 129318, 1⟩,
  ⟨129328, 129337, 1⟩, ⟨129340, 129342, 1⟩, ⟨129399, 129399, 1⟩, ⟨129461, 129462, 1⟩,
  ⟨129464, 129465, 1⟩, ⟨129467, 129467, 1⟩, ⟨129485, 129487, 1⟩, ⟨129489, 129501, 1⟩,
  ⟨129731, 129733, 1⟩, ⟨129776, 129784, 1⟩]

end Stencil.Text.Property
