import Stencil.Text.Property.Stride

set_option autoImplicit false

/-! Characters that do not take one column. -/

namespace Stencil.Text.Property

/-- Characters that take two columns. -/
def wide : List Stride := [
  ⟨4352, 4447, 1⟩, ⟨8986, 8987, 1⟩, ⟨9001, 9002, 1⟩, ⟨9193, 9196, 1⟩, ⟨9200, 9200, 1⟩,
  ⟨9203, 9203, 1⟩, ⟨9725, 9726, 1⟩, ⟨9748, 9749, 1⟩, ⟨9776, 9783, 1⟩, ⟨9800, 9811, 1⟩,
  ⟨9855, 9855, 1⟩, ⟨9866, 9871, 1⟩, ⟨9875, 9875, 1⟩, ⟨9889, 9889, 1⟩, ⟨9898, 9899, 1⟩,
  ⟨9917, 9918, 1⟩, ⟨9924, 9925, 1⟩, ⟨9934, 9934, 1⟩, ⟨9940, 9940, 1⟩, ⟨9962, 9962, 1⟩,
  ⟨9970, 9971, 1⟩, ⟨9973, 9973, 1⟩, ⟨9978, 9978, 1⟩, ⟨9981, 9981, 1⟩, ⟨9989, 9989, 1⟩,
  ⟨9994, 9995, 1⟩, ⟨10024, 10024, 1⟩, ⟨10060, 10062, 2⟩, ⟨10067, 10069, 1⟩, ⟨10071, 10071, 1⟩,
  ⟨10133, 10135, 1⟩, ⟨10160, 10160, 1⟩, ⟨10175, 10175, 1⟩, ⟨11035, 11036, 1⟩, ⟨11088, 11088, 1⟩,
  ⟨11093, 11093, 1⟩, ⟨11904, 11929, 1⟩, ⟨11931, 12019, 1⟩, ⟨12032, 12245, 1⟩, ⟨12272, 12350, 1⟩,
  ⟨12353, 12438, 1⟩, ⟨12441, 12543, 1⟩, ⟨12549, 12591, 1⟩, ⟨12593, 12686, 1⟩, ⟨12688, 12773, 1⟩,
  ⟨12783, 12830, 1⟩, ⟨12832, 12871, 1⟩, ⟨12880, 42124, 1⟩, ⟨42128, 42182, 1⟩, ⟨43360, 43388, 1⟩,
  ⟨44032, 55203, 1⟩, ⟨63744, 64255, 1⟩, ⟨65040, 65049, 1⟩, ⟨65072, 65106, 1⟩, ⟨65108, 65126, 1⟩,
  ⟨65128, 65131, 1⟩, ⟨65281, 65376, 1⟩, ⟨65504, 65510, 1⟩, ⟨94176, 94180, 1⟩, ⟨94192, 94198, 1⟩,
  ⟨94208, 101589, 1⟩, ⟨101631, 101662, 1⟩, ⟨101760, 101874, 1⟩, ⟨110576, 110579, 1⟩,
  ⟨110581, 110587, 1⟩, ⟨110589, 110590, 1⟩, ⟨110592, 110882, 1⟩, ⟨110898, 110898, 1⟩,
  ⟨110928, 110930, 1⟩, ⟨110933, 110933, 1⟩, ⟨110948, 110951, 1⟩, ⟨110960, 111355, 1⟩,
  ⟨119552, 119638, 1⟩, ⟨119648, 119670, 1⟩, ⟨126980, 126980, 1⟩, ⟨127183, 127183, 1⟩,
  ⟨127374, 127374, 1⟩, ⟨127377, 127386, 1⟩, ⟨127488, 127490, 1⟩, ⟨127504, 127547, 1⟩,
  ⟨127552, 127560, 1⟩, ⟨127568, 127569, 1⟩, ⟨127584, 127589, 1⟩, ⟨127744, 127776, 1⟩,
  ⟨127789, 127797, 1⟩, ⟨127799, 127868, 1⟩, ⟨127870, 127891, 1⟩, ⟨127904, 127946, 1⟩,
  ⟨127951, 127955, 1⟩, ⟨127968, 127984, 1⟩, ⟨127988, 127988, 1⟩, ⟨127992, 128062, 1⟩,
  ⟨128064, 128064, 1⟩, ⟨128066, 128252, 1⟩, ⟨128255, 128317, 1⟩, ⟨128331, 128334, 1⟩,
  ⟨128336, 128359, 1⟩, ⟨128378, 128378, 1⟩, ⟨128405, 128406, 1⟩, ⟨128420, 128420, 1⟩,
  ⟨128507, 128591, 1⟩, ⟨128640, 128709, 1⟩, ⟨128716, 128716, 1⟩, ⟨128720, 128722, 1⟩,
  ⟨128725, 128728, 1⟩, ⟨128732, 128735, 1⟩, ⟨128747, 128748, 1⟩, ⟨128756, 128764, 1⟩,
  ⟨128992, 129003, 1⟩, ⟨129008, 129008, 1⟩, ⟨129292, 129338, 1⟩, ⟨129340, 129349, 1⟩,
  ⟨129351, 129535, 1⟩, ⟨129648, 129660, 1⟩, ⟨129664, 129674, 1⟩, ⟨129678, 129734, 1⟩,
  ⟨129736, 129736, 1⟩, ⟨129741, 129756, 1⟩, ⟨129759, 129770, 1⟩, ⟨129775, 129784, 1⟩,
  ⟨131072, 196605, 1⟩, ⟨196608, 262141, 1⟩]

/-- Characters that displays leave out. -/
def ignorable : List Stride := [
  ⟨173, 173, 1⟩, ⟨847, 847, 1⟩, ⟨1564, 1564, 1⟩, ⟨4448, 4448, 1⟩, ⟨6068, 6069, 1⟩, ⟨6155, 6159, 1⟩,
  ⟨8203, 8207, 1⟩, ⟨8234, 8238, 1⟩, ⟨8288, 8303, 1⟩, ⟨12644, 12644, 1⟩, ⟨65024, 65039, 1⟩,
  ⟨65279, 65279, 1⟩, ⟨65440, 65440, 1⟩, ⟨65520, 65528, 1⟩, ⟨113824, 113827, 1⟩,
  ⟨119155, 119162, 1⟩, ⟨917504, 921599, 1⟩]

end Stencil.Text.Property
